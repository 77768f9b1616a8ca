import Mathlib.Data.Int.Order.Basic
import MeeScanner.Compose
import MeeScanner.Query
import MeeScanner.Transition
import MeeScanner.History.UseCase

/-!
This module contains the history of the app: `HistoryViewModel` over the table that
`ScanHistoryDao` stores its rows in, the collections of `getAll` that `loadHistory` starts, and
`HistoryScreen` with its filter tabs.

The table only grows, version `v` of it are the `v` rows that were inserted first. Inserts complete
in any order. Each collection delivers snapshots of its own, at any later time. Every run starts
with an empty table: a start of the app over the rows that an earlier one stored is left out.
-/

open Compose Query

namespace MeeScanner

inductive HistoryUiState where
  | loading
  | success (history : List ScanHistoryEntity)
  | error (message : String)
  deriving DecidableEq, Repr

structure HistoryViewModel where
  selectedFilterTab : String := "ALL"
  historyUiState : HistoryUiState := .loading
  deriving DecidableEq, Repr

def HistoryViewModel.onTabSelected (vm : HistoryViewModel) (tab : String) : HistoryViewModel :=
  { vm with selectedFilterTab := tab }

namespace ScanHistoryDao

-- SELECT * FROM scan_history ORDER BY createdAt DESC
def GetAll (table rows : List ScanHistoryEntity) : Prop :=
  OrderByDesc ScanHistoryEntity.createdAt table rows

instance (table rows : List ScanHistoryEntity) : Decidable (GetAll table rows) :=
  inferInstanceAs (Decidable (OrderByDesc ScanHistoryEntity.createdAt table rows))

end ScanHistoryDao

namespace HistoryScreen

def tabList : List String := ["ALL", "QR", "TEXT", "OBJECT", "DOCUMENT", "PHOTO"]

def filteredHistory (historyUiState : HistoryUiState) (selectedFilterTab : String)
    : List ScanHistoryEntity :=
  match historyUiState with
  | .success history =>
    if selectedFilterTab = "ALL" then
      history
    else
      history.filter fun row => row.scanType = selectedFilterTab
  | _ => []

end HistoryScreen

namespace History

-- One `getHistory().collect` of `loadHistory`, `start` is the table version it started at.
structure Collector where
  start : Nat
  last : Option Nat := none
  failed : Bool := false
  deriving DecidableEq, Repr

def Collector.seen (collector : Collector) : Nat := collector.last.getD collector.start

-- What the writes to `historyUiState` showed: the version of a success, and for an error whether
-- the newest collector had failed by then.
inductive Write where
  | loading
  | success (version : Nat)
  | error (newestFailed : Bool)
  deriving DecidableEq, Repr

structure State where
  historyViewModel : HistoryViewModel := {}
  inserting : List ScanHistoryEntity := []
  table : List ScanHistoryEntity := []
  collectors : List Collector := []
  writes : List Write := []
  inComposition : Bool := false
  selectedFilterTab : String := "ALL"
  historyUiState : HistoryUiState := .loading
  loadEffect : LaunchedEffect Unit Unit := .absent
  items : Option (List ScanHistoryEntity) := none
  deriving DecidableEq, Repr

inductive Event where
  | storeResult (result : ScanResult) (analyzerType : AnalyzerType) (now : Int)
  | inserted (history : ScanHistoryEntity) (id : Int)
  | collected (collector : Nat) (version : Nat) (rows : List ScanHistoryEntity)
  | failed (collector : Nat) (message : Option String)
  | tabSelected (tab : String)
  | collectFilterTab
  | collectUiState
  | recompose
  | runLoadEffect
  | enterComposition
  | leaveComposition
  deriving DecidableEq, Repr

namespace State

def setUiState (s : State) (historyUiState : HistoryUiState) (write : Write) : State :=
  {
    s with
    historyViewModel := { s.historyViewModel with historyUiState := historyUiState }
    writes := s.writes ++ [write]
  }

def newestFailed (s : State) : Bool := s.collectors.getLast?.any (·.failed)

def storeResult (s : State) (result : ScanResult) (analyzerType : AnalyzerType) (now : Int)
    : State :=
  { s with inserting := s.inserting ++ [ScanHistoryUseCase.saveHistory result analyzerType now] }

-- The insert of a row with id 0 generates its key.
def inserted (s : State) (history : ScanHistoryEntity) (id : Int) : Option State :=
  if history ∈ s.inserting ∧ ∀ row ∈ s.table, row.id ≠ id then
    some {
      s with
      inserting := s.inserting.erase history
      table := s.table ++ [{ history with id := id }]
    }
  else
    none

def loadHistory (s : State) : State :=
  let s := s.setUiState .loading .loading
  { s with collectors := s.collectors ++ [{ start := s.table.length }] }

def collected (s : State) (collector : Nat) (version : Nat) (rows : List ScanHistoryEntity)
    : Option State :=
  match s.collectors[collector]? with
  | none => none
  | some c =>
    if c.failed = false ∧ (c.seen ≤ version ∧ version ≤ s.table.length)
        ∧ ScanHistoryDao.GetAll (s.table.take version) rows then
      let s := { s with collectors := s.collectors.set collector { c with last := some version } }
      some (s.setUiState (.success rows) (.success version))
    else
      none

def failed (s : State) (collector : Nat) (message : Option String) : Option State :=
  match s.collectors[collector]? with
  | none => none
  | some c =>
    if c.failed then
      none
    else
      let s := { s with collectors := s.collectors.set collector { c with failed := true } }
      some (s.setUiState (.error (message.getD "Something went wrong")) (.error s.newestFailed))

-- The list is computed from the state that is read from the view model, the branch that shows it is
-- chosen by the collected one.
def historyScreen (s : State) : State :=
  {
    s with
    loadEffect := s.loadEffect.compose () ()
    items :=
      match s.historyUiState with
      | .success _ =>
        some (HistoryScreen.filteredHistory s.historyViewModel.historyUiState s.selectedFilterTab)
      | _ => none
  }

def runLoadEffect (s : State) : Option State :=
  match s.loadEffect.scheduled with
  | none => none
  | some () => some (State.loadHistory { s with loadEffect := s.loadEffect.ran })

def enterComposition (s : State) : Option State :=
  if s.inComposition then
    none
  else
    some {
      s with
      inComposition := true
      selectedFilterTab := s.historyViewModel.selectedFilterTab
      historyUiState := s.historyViewModel.historyUiState
    }.historyScreen

def leaveComposition (s : State) : Option State :=
  if s.inComposition then
    some { s with inComposition := false, loadEffect := .absent, items := none }
  else
    none

end State

def init : State := {}

def step (s : State) : Event → Option State
  | .storeResult result analyzerType now => some (s.storeResult result analyzerType now)
  | .inserted history id => s.inserted history id
  | .collected collector version rows => s.collected collector version rows
  | .failed collector message => s.failed collector message
  | .tabSelected tab =>
    if s.inComposition ∧ tab ∈ HistoryScreen.tabList then
      some { s with historyViewModel := s.historyViewModel.onTabSelected tab }
    else
      none
  | .collectFilterTab =>
    if s.inComposition then
      some { s with selectedFilterTab := s.historyViewModel.selectedFilterTab }
    else
      none
  | .collectUiState =>
    if s.inComposition then
      some { s with historyUiState := s.historyViewModel.historyUiState }
    else
      none
  | .recompose => if s.inComposition then some s.historyScreen else none
  | .runLoadEffect => s.runLoadEffect
  | .enterComposition => s.enterComposition
  | .leaveComposition => s.leaveComposition

end History
end MeeScanner
