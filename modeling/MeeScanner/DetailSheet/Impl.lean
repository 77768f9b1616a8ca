import MeeScanner.MainQueue
import MeeScanner.Transition
import MeeScanner.History.UseCase

/-!
This module contains the detail sheet of `HistoryScreen`: the two flows of `HistoryViewModel` behind
it, the copies that the screen collects, and the queue that the collectors run from. A copy starts
with the value its flow has when the screen enters the composition, and takes the value of the
moment whenever its collector runs. Calls of the view model run to their end.
-/

open MainQueue

namespace MeeScanner
namespace DetailSheet

structure HistoryFlows where
  selectedHistory : Option ScanHistoryEntity := none
  showDetailSheet : Bool := false
  deriving DecidableEq, Repr

inductive Collector where
  | selectedHistory
  | showDetailSheet
  deriving DecidableEq, Repr

-- What the last composition made of `if (showDetailSheet) DetailBottomSheet(selectedHistory!!)`.
inductive Sheet where
  | hidden
  | shown (history : ScanHistoryEntity)
  | nullPointerException
  deriving DecidableEq, Repr

structure State where
  historyViewModel : HistoryFlows := {}
  inComposition : Bool := false
  selectedHistory : Option ScanHistoryEntity := none
  showDetailSheet : Bool := false
  queue : List Collector := []
  sheet : Sheet := .hidden
  deriving DecidableEq, Repr

inductive Event where
  | onHistorySelected (history : ScanHistoryEntity)
  | historyDismiss
  | resumeCollector
  | recompose
  | enterComposition
  | leaveComposition
  deriving DecidableEq, Repr

namespace State

def setSelectedHistory (s : State) (value : Option ScanHistoryEntity) : State :=
  {
    s with
    historyViewModel := { s.historyViewModel with selectedHistory := value }
    queue :=
      if s.inComposition then
        write s.historyViewModel.selectedHistory value s.queue .selectedHistory
      else
        s.queue
  }

def setShowDetailSheet (s : State) (value : Bool) : State :=
  {
    s with
    historyViewModel := { s.historyViewModel with showDetailSheet := value }
    queue :=
      if s.inComposition then
        write s.historyViewModel.showDetailSheet value s.queue .showDetailSheet
      else
        s.queue
  }

def onHistorySelected (s : State) (history : Option ScanHistoryEntity) : State :=
  (s.setSelectedHistory history).setShowDetailSheet true

def historyDismiss (s : State) : State := (s.setShowDetailSheet false).setSelectedHistory none

def collect (s : State) : Collector → State
  | .selectedHistory => { s with selectedHistory := s.historyViewModel.selectedHistory }
  | .showDetailSheet => { s with showDetailSheet := s.historyViewModel.showDetailSheet }

@[simp]
theorem collect_historyViewModel (s : State) (collector : Collector)
    : (s.collect collector).historyViewModel = s.historyViewModel := by
  cases collector <;> rfl

@[simp]
theorem collect_inComposition (s : State) (collector : Collector)
    : (s.collect collector).inComposition = s.inComposition := by
  cases collector <;> rfl

@[simp]
theorem collect_sheet (s : State) (collector : Collector)
    : (s.collect collector).sheet = s.sheet := by
  cases collector <;> rfl

def resumeCollector (s : State) : Option State :=
  match s.queue with
  | [] => none
  | collector :: queue => some (State.collect { s with queue := queue } collector)

def historyScreen (s : State) : State :=
  {
    s with
    sheet :=
      if s.showDetailSheet then
        match s.selectedHistory with
        | none => .nullPointerException
        | some history => .shown history
      else
        .hidden
  }

def enterComposition (s : State) : Option State :=
  if s.inComposition then
    none
  else
    some {
      s with
      inComposition := true
      selectedHistory := s.historyViewModel.selectedHistory
      showDetailSheet := s.historyViewModel.showDetailSheet
    }.historyScreen

def leaveComposition (s : State) : Option State :=
  if s.inComposition then
    some { s with inComposition := false, queue := [], sheet := .hidden }
  else
    none

end State

def init : State := {}

def step (s : State) : Event → Option State
  | .onHistorySelected history => some (s.onHistorySelected (some history))
  | .historyDismiss => some s.historyDismiss
  | .resumeCollector => s.resumeCollector
  | .recompose => if s.inComposition then some s.historyScreen else none
  | .enterComposition => s.enterComposition
  | .leaveComposition => s.leaveComposition

end DetailSheet
end MeeScanner
