import MeeScanner.History.Impl

/-!
This module contains the inversion of `History.step`, one constructor for each branch.
-/

open Compose

namespace MeeScanner
namespace History

namespace State

def deliver (s : State) (collector : Nat) (c : Collector) (version : Nat)
    (rows : List ScanHistoryEntity) : State :=
  State.setUiState
    { s with collectors := s.collectors.set collector { c with last := some version } }
    (.success rows) (.success version)

def markFailed (s : State) (collector : Nat) (c : Collector) : State :=
  { s with collectors := s.collectors.set collector { c with failed := true } }

end State

inductive Step (s : State) : Event → State → Prop where
  | storeResult (result : ScanResult) (analyzerType : AnalyzerType) (now : Int)
    : Step s (.storeResult result analyzerType now) (s.storeResult result analyzerType now)
  | inserted (history : ScanHistoryEntity) (id : Int) (hmem : history ∈ s.inserting)
    (hfresh : ∀ row ∈ s.table, row.id ≠ id)
    : Step s (.inserted history id)
        {
          s with
          inserting := s.inserting.erase history
          table := s.table ++ [{ history with id := id }]
        }
  | collected (collector : Nat) (c : Collector) (version : Nat) (rows : List ScanHistoryEntity)
    (hc : s.collectors[collector]? = some c) (hlive : c.failed = false)
    (hversion : c.seen ≤ version ∧ version ≤ s.table.length)
    (hrows : ScanHistoryDao.GetAll (s.table.take version) rows)
    : Step s (.collected collector version rows) (s.deliver collector c version rows)
  | failed (collector : Nat) (c : Collector) (message : Option String)
    (hc : s.collectors[collector]? = some c) (hlive : c.failed = false)
    : Step s (.failed collector message)
        ((s.markFailed collector c).setUiState (.error (message.getD "Something went wrong"))
          (.error (s.markFailed collector c).newestFailed))
  | tabSelected (tab : String) (hcomp : s.inComposition) (htab : tab ∈ HistoryScreen.tabList)
    : Step s (.tabSelected tab)
        { s with historyViewModel := s.historyViewModel.onTabSelected tab }
  | collectFilterTab (hcomp : s.inComposition)
    : Step s .collectFilterTab { s with selectedFilterTab := s.historyViewModel.selectedFilterTab }
  | collectUiState (hcomp : s.inComposition)
    : Step s .collectUiState { s with historyUiState := s.historyViewModel.historyUiState }
  | recompose (hcomp : s.inComposition) : Step s .recompose s.historyScreen
  | loaded (hscheduled : s.loadEffect.scheduled = some ())
    : Step s .runLoadEffect (State.loadHistory { s with loadEffect := s.loadEffect.ran })
  | enterComposition (hcomp : s.inComposition = false)
    : Step s .enterComposition
        {
          s with
          inComposition := true
          selectedFilterTab := s.historyViewModel.selectedFilterTab
          historyUiState := s.historyViewModel.historyUiState
        }.historyScreen
  | leaveComposition (hcomp : s.inComposition)
    : Step s .leaveComposition
        { s with inComposition := false, loadEffect := .absent, items := none }

variable {s s' : State} {e : Event}

theorem Step.of_collected {collector version : Nat} {rows : List ScanHistoryEntity}
    (h : s.collected collector version rows = some s')
    : Step s (.collected collector version rows) s' := by
  unfold State.collected at h
  split at h
  . contradiction
  . next c hc =>
    simp only [Option.ite_none_right_eq_some, Option.some.injEq] at h
    rcases h with ⟨⟨hlive, hversion, hrows⟩, rfl⟩
    apply Step.collected collector c version rows hc hlive hversion hrows

theorem Step.of_failed {collector : Nat} {message : Option String}
    (h : s.failed collector message = some s') : Step s (.failed collector message) s' := by
  unfold State.failed at h
  split at h
  . contradiction
  . next c hc =>
    simp only [Option.ite_none_left_eq_some, Bool.not_eq_true, Option.some.injEq] at h
    rcases h with ⟨hlive, rfl⟩
    apply Step.failed collector c message hc hlive

theorem Step.of_runLoadEffect (h : s.runLoadEffect = some s') : Step s .runLoadEffect s' := by
  unfold State.runLoadEffect at h
  split at h
  . contradiction
  . next hscheduled =>
    injection h with h
    subst h
    apply Step.loaded hscheduled

theorem Step.of_step (h : step s e = some s') : Step s e s' := by
  cases e with
  | storeResult result analyzerType now =>
    simp only [step, Option.some.injEq] at h
    exact h ▸ .storeResult result analyzerType now
  | inserted history id =>
    simp only [step, State.inserted, Option.ite_none_right_eq_some, Option.some.injEq] at h
    exact h.2 ▸ .inserted history id h.1.1 h.1.2
  | collected collector version rows => apply Step.of_collected h
  | failed collector message => apply Step.of_failed h
  | tabSelected tab =>
    simp only [step, Option.ite_none_right_eq_some, Option.some.injEq] at h
    exact h.2 ▸ .tabSelected tab h.1.1 h.1.2
  | collectFilterTab =>
    simp only [step, Option.ite_none_right_eq_some, Option.some.injEq] at h
    exact h.2 ▸ .collectFilterTab h.1
  | collectUiState =>
    simp only [step, Option.ite_none_right_eq_some, Option.some.injEq] at h
    exact h.2 ▸ .collectUiState h.1
  | recompose =>
    simp only [step, Option.ite_none_right_eq_some, Option.some.injEq] at h
    exact h.2 ▸ .recompose h.1
  | runLoadEffect => apply Step.of_runLoadEffect h
  | enterComposition =>
    simp only [step, State.enterComposition, Option.ite_none_left_eq_some, Bool.not_eq_true,
      Option.some.injEq] at h
    exact h.2 ▸ .enterComposition h.1
  | leaveComposition =>
    simp only [step, State.leaveComposition, Option.ite_none_right_eq_some,
      Option.some.injEq] at h
    exact h.2 ▸ .leaveComposition h.1

end History
end MeeScanner
