import MeeScanner.Compose
import MeeScanner.Transition
import MeeScanner.Home.Util

/-!
This module contains the document scanner of the Android Home screen: `DocumentViewModel`, the copy
of `openScanner` that `HomeScreen` collects, and the effect and the launcher of `DocumentScanner`.

Start requests answer at any later time, also when Home has left the composition: their listeners
belong to the task. The result of a scanner activity is delivered to the launcher that Home has
registered: `activityResult` is this delivery, an answer that comes while Home is away waits in the
result registry until the next launcher registers. The source launches through a launcher that may
have been disposed when a request succeeds, which throws; the model lets it open the scanner as well.
-/

open Compose

namespace MeeScanner

inductive DocumentScanState where
  | idle
  | scanning
  | success (result : DocumentScanResult)
  | error (message : String)
  deriving DecidableEq, Repr

structure DocumentViewModel where
  openScanner : Bool := false
  documentScanState : DocumentScanState := .idle
  deriving DecidableEq, Repr

namespace DocumentViewModel

def onDocumentTabTapped (_vm : DocumentViewModel) : DocumentViewModel :=
  { openScanner := true, documentScanState := .scanning }

def onScanSuccess (_vm : DocumentViewModel) (result : DocumentScanResult) : DocumentViewModel :=
  { openScanner := false, documentScanState := .success result }

def onScanError (_vm : DocumentViewModel) (message : String) : DocumentViewModel :=
  { openScanner := false, documentScanState := .error message }

end DocumentViewModel

namespace Document

structure GmsDocumentScanningResult where
  pages : Option (List String)
  pdf : Option String
  deriving DecidableEq, Repr

-- Activity.RESULT_OK
def resultOk : Int := -1

structure Launch where
  trigger : Bool
  hasActivity : Bool
  deriving DecidableEq, Repr

structure State where
  documentViewModel : DocumentViewModel := {}
  inComposition : Bool := false
  hasActivity : Bool := false
  trigger : Bool := false
  scannerEffect : LaunchedEffect Bool Launch := .absent
  requests : Nat := 0
  activities : Nat := 0
  scans : List ScanResult := []
  deriving DecidableEq, Repr

inductive Event where
  | documentTabTapped
  | collectOpenScanner
  | recompose
  | runScannerEffect
  | startIntentSuccess
  | startIntentFailure (message : Option String)
  | activityResult (resultCode : Int) (data : Option GmsDocumentScanningResult)
  | enterComposition (hasActivity : Bool)
  | leaveComposition
  deriving DecidableEq, Repr

def scanResult (gmsResult : GmsDocumentScanningResult) : DocumentScanResult :=
  {
    pageCount := (gmsResult.pages.map fun pages => (pages.length : Int)).getD 0
    pdfUri := gmsResult.pdf
    pages := (gmsResult.pages.map fun pages => pages.map ScannedDocumentPage.mk).getD []
  }

namespace State

def outstanding (s : State) : Nat := s.requests + s.activities

def onResult (s : State) (result : DocumentScanResult) : State :=
  {
    s with
    documentViewModel := s.documentViewModel.onScanSuccess result
    scans := s.scans ++ [.documentResult result.pageCount result.pdfUri result.pages]
  }

def onError (s : State) (message : String) : State :=
  { s with documentViewModel := s.documentViewModel.onScanError message }

def documentScanner (s : State) : State :=
  { s with scannerEffect := s.scannerEffect.compose s.trigger ⟨s.trigger, s.hasActivity⟩ }

def runScannerEffect (s : State) : Option State :=
  match s.scannerEffect.scheduled with
  | none => none
  | some launch =>
    let s := { s with scannerEffect := s.scannerEffect.ran }
    if launch.trigger then
      if launch.hasActivity then
        some { s with requests := s.requests + 1 }
      else
        some (s.onError "Cannot open scanner")
    else
      some s

def startIntentSuccess (s : State) : Option State :=
  if 0 < s.requests then
    some { s with requests := s.requests - 1, activities := s.activities + 1 }
  else
    none

def startIntentFailure (s : State) (message : Option String) : Option State :=
  if 0 < s.requests then
    some (State.onError { s with requests := s.requests - 1 }
      (message.getD "Scanner failed to start"))
  else
    none

def activityResult (s : State) (resultCode : Int) (data : Option GmsDocumentScanningResult)
    : Option State :=
  if s.inComposition ∧ 0 < s.activities then
    let s := { s with activities := s.activities - 1 }
    if resultCode ≠ resultOk then
      some (s.onError "User cancelled scan")
    else
      match data with
      | none => some (s.onError "Scan returned no data")
      | some gmsResult => some (s.onResult (scanResult gmsResult))
  else
    none

def enterComposition (s : State) (hasActivity : Bool) : Option State :=
  if s.inComposition then
    none
  else
    some {
      s with
      inComposition := true
      hasActivity := hasActivity
      trigger := s.documentViewModel.openScanner
    }.documentScanner

def leaveComposition (s : State) : Option State :=
  if s.inComposition then
    some { s with inComposition := false, scannerEffect := .absent }
  else
    none

end State

def init : State := {}

def step (s : State) : Event → Option State
  | .documentTabTapped =>
    if s.inComposition then
      some { s with documentViewModel := s.documentViewModel.onDocumentTabTapped }
    else
      none
  | .collectOpenScanner =>
    if s.inComposition then
      some { s with trigger := s.documentViewModel.openScanner }
    else
      none
  | .recompose => if s.inComposition then some s.documentScanner else none
  | .runScannerEffect => s.runScannerEffect
  | .startIntentSuccess => s.startIntentSuccess
  | .startIntentFailure message => s.startIntentFailure message
  | .activityResult resultCode data => s.activityResult resultCode data
  | .enterComposition hasActivity => s.enterComposition hasActivity
  | .leaveComposition => s.leaveComposition

end Document
end MeeScanner
