import MeeScanner.DetailSheet.Impl

/-!
This module contains what the detail sheet shows in the end. In whatever order the collectors waited
and whatever a composition in between made of it, once they have run the sheet is that of the view
model.
-/

open MainQueue Transition

namespace MeeScanner
namespace DetailSheet

def HistoryFlows.sheet (flows : HistoryFlows) : Sheet :=
  match flows.selectedHistory with
  | none => .hidden
  | some history => .shown history

-- A copy is behind its flow only while its collector waits.
structure Follows (s : State) : Prop where
  nodup : s.queue.Nodup
  row : s.inComposition = true → .selectedHistory ∉ s.queue →
    s.selectedHistory = s.historyViewModel.selectedHistory
  flag : s.inComposition = true → .showDetailSheet ∉ s.queue →
    s.showDetailSheet = s.historyViewModel.showDetailSheet
  away : s.inComposition = false → s.queue = []

def Paired (s : State) : Prop :=
  s.historyViewModel.showDetailSheet = s.historyViewModel.selectedHistory.isSome

theorem follows_init : Follows init := by
  constructor <;> simp [init]

section

variable {s s' : State} {e : Event}

theorem Follows.setSelectedHistory (h : Follows s) (value : Option ScanHistoryEntity)
    : Follows (s.setSelectedHistory value) := by
  unfold State.setSelectedHistory
  cases hcomp : s.inComposition with
  | false =>
    constructor <;> simp [h.away hcomp]
  | true =>
    constructor
    . exact nodup_write h.nodup _
    . intro _ hidle
      rw [h.row hcomp (not_mem_write hidle)]
      exact eq_of_not_mem_write hidle
    . intro _ hidle
      exact h.flag hcomp (not_mem_write hidle)
    . intro hcontra
      contradiction

theorem Follows.setShowDetailSheet (h : Follows s) (value : Bool)
    : Follows (s.setShowDetailSheet value) := by
  unfold State.setShowDetailSheet
  cases hcomp : s.inComposition with
  | false =>
    constructor <;> simp [h.away hcomp]
  | true =>
    constructor
    . exact nodup_write h.nodup _
    . intro _ hidle
      exact h.row hcomp (not_mem_write hidle)
    . intro _ hidle
      rw [h.flag hcomp (not_mem_write hidle)]
      exact eq_of_not_mem_write hidle
    . intro hcontra
      contradiction

theorem Follows.composed (h : Follows s) {collector : Collector} {queue : List Collector}
    (hqueue : s.queue = collector :: queue) : s.inComposition = true := by
  by_contra haway
  rw [Bool.not_eq_true] at haway
  rw [h.away haway] at hqueue
  contradiction

theorem Follows.resumed (h : Follows s) {collector : Collector} {queue : List Collector}
    (hqueue : s.queue = collector :: queue)
    : Follows (State.collect { s with queue := queue } collector) := by
  have hcomp := h.composed hqueue
  have hnodup := h.nodup
  have hrow := h.row hcomp
  have hflag := h.flag hcomp
  rw [hqueue, List.nodup_cons] at hnodup
  rw [hqueue] at hrow hflag
  cases collector with
  | selectedHistory =>
    constructor
    . exact hnodup.2
    . intro _ _
      rfl
    . intro _ hidle
      apply hflag
      simpa [State.collect] using hidle
    . intro haway
      exact absurd haway (by simp [State.collect, hcomp])
  | showDetailSheet =>
    constructor
    . exact hnodup.2
    . intro _ hidle
      apply hrow
      simpa [State.collect] using hidle
    . intro _ _
      rfl
    . intro haway
      exact absurd haway (by simp [State.collect, hcomp])

theorem Follows.step (h : Follows s) (hs : step s e = some s') : Follows s' := by
  cases e with
  | onHistorySelected history =>
    injection hs with hs
    rw [← hs]
    exact (h.setSelectedHistory _).setShowDetailSheet _
  | historyDismiss =>
    injection hs with hs
    rw [← hs]
    exact (h.setShowDetailSheet _).setSelectedHistory _
  | resumeCollector =>
    simp only [DetailSheet.step, State.resumeCollector] at hs
    split at hs
    . contradiction
    . next collector queue hqueue =>
      injection hs with hs
      rw [← hs]
      exact h.resumed hqueue
  | recompose =>
    simp only [DetailSheet.step, Option.ite_none_right_eq_some, Option.some.injEq] at hs
    rw [← hs.2]
    exact ⟨h.nodup, h.row, h.flag, h.away⟩
  | enterComposition =>
    simp only [DetailSheet.step, State.enterComposition, Option.ite_none_left_eq_some,
      Bool.not_eq_true, Option.some.injEq] at hs
    rw [← hs.2]
    constructor <;> simp [State.historyScreen, h.away hs.1]
  | leaveComposition =>
    simp only [DetailSheet.step, State.leaveComposition, Option.ite_none_right_eq_some,
      Option.some.injEq] at hs
    rw [← hs.2]
    constructor <;> simp

theorem paired_step (h : Paired s) (hs : step s e = some s') : Paired s' := by
  cases e with
  | onHistorySelected history =>
    injection hs with hs
    rw [← hs]
    rfl
  | historyDismiss =>
    injection hs with hs
    rw [← hs]
    rfl
  | resumeCollector =>
    simp only [step, State.resumeCollector] at hs
    split at hs
    . contradiction
    . injection hs with hs
      rw [← hs, Paired, State.collect_historyViewModel]
      exact h
  | recompose =>
    simp only [step, Option.ite_none_right_eq_some, Option.some.injEq] at hs
    rw [← hs.2]
    exact h
  | enterComposition =>
    simp only [step, State.enterComposition, Option.ite_none_left_eq_some, Option.some.injEq] at hs
    rw [← hs.2]
    exact h
  | leaveComposition =>
    simp only [step, State.leaveComposition, Option.ite_none_right_eq_some,
      Option.some.injEq] at hs
    rw [← hs.2]
    exact h

theorem queue_length_le (h : Follows s) : s.queue.length ≤ 2 := by
  have hnodup := h.nodup
  match hqueue : s.queue with
  | [] => simp
  | [_] => simp
  | [_, _] => simp
  | a :: b :: c :: queue =>
    rw [hqueue] at hnodup
    cases a <;> cases b <;> cases c <;> simp at hnodup

theorem exec_drained (h : Follows s) (hcomp : s.inComposition = true)
    : ∃ t, exec step s (List.replicate s.queue.length .resumeCollector) = some t
        ∧ t.queue = [] ∧ Follows t ∧ t.historyViewModel = s.historyViewModel
        ∧ t.inComposition = true := by
  induction hn : s.queue.length generalizing s with
  | zero => exact ⟨s, rfl, List.length_eq_zero_iff.mp hn, h, rfl, hcomp⟩
  | succ n ih =>
    rcases List.exists_cons_of_length_eq_add_one hn with ⟨collector, queue, hqueue⟩
    have hlength : queue.length = n := by simpa [hqueue] using hn
    have hstep : step s .resumeCollector
        = some (State.collect { s with queue := queue } collector) := by
      simp [step, State.resumeCollector, hqueue]
    have hcollected : (State.collect { s with queue := queue } collector).queue = queue := by
      cases collector <;> rfl
    rcases ih (h.resumed hqueue) (by simpa using hcomp) (by rw [hcollected, hlength])
      with ⟨t, hexec, hdone, ht, hvm, hin⟩
    refine ⟨t, ?_, hdone, ht, by simpa using hvm, hin⟩
    rw [List.replicate_succ, exec_cons, hstep]
    exact hexec

end

theorem catchesUp (es : List Event) (s : State) (hexec : exec step init es = some s)
    (hcomp : s.inComposition = true)
    : s.queue.length ≤ 2
        ∧ ∃ s', exec step s (List.replicate s.queue.length .resumeCollector ++ [.recompose])
              = some s'
            ∧ s'.queue = [] ∧ s'.historyViewModel = s.historyViewModel
            ∧ s'.sheet = s.historyViewModel.sheet := by
  have hfollows : Follows s := inv_of_exec (fun s e s' h hs => h.step hs) follows_init hexec
  have hinit : Paired init := rfl
  have hpaired : Paired s := inv_of_exec (fun s e s' h hs => paired_step h hs) hinit hexec
  refine ⟨queue_length_le hfollows, ?_⟩
  rcases exec_drained hfollows hcomp with ⟨t, ht, hdone, htfollows, hvm, hin⟩
  refine ⟨t.historyScreen, ?_, hdone, hvm, ?_⟩
  . rw [exec_append, ht]
    simp [step, hin]
  . have hrow := htfollows.row hin (by simp [hdone])
    have hflag := htfollows.flag hin (by simp [hdone])
    rw [hvm] at hrow hflag
    rw [hpaired] at hflag
    unfold State.historyScreen HistoryFlows.sheet
    simp only [hrow, hflag]
    cases s.historyViewModel.selectedHistory <;> rfl

-- The flag's collector waits ahead of that of the row, see `tappedTwice`, and both still wait.
def selectedTwice : List Event :=
  let row := ScanHistoryUseCase.saveHistory (.qrResult "upi://pay" none) .qr 3
  let other := ScanHistoryUseCase.saveHistory (.textResult "note" none) .text 4
  [.enterComposition, .onHistorySelected row, .resumeCollector, .onHistorySelected other]

theorem selectedTwice_catchesUp
    : let s := (exec step init selectedTwice).get (by decide)
      s.queue.length ≤ 2
        ∧ ∃ s', exec step s (List.replicate s.queue.length .resumeCollector ++ [.recompose])
              = some s'
            ∧ s'.queue = [] ∧ s'.historyViewModel = s.historyViewModel
            ∧ s'.sheet = s.historyViewModel.sheet := by
  apply catchesUp selectedTwice _ (Option.some_get _).symm
  decide

end DetailSheet
end MeeScanner
