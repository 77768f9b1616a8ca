import MeeScanner.Compose
import MeeScanner.Document.Impl
import MeeScanner.DocumentCamera.Impl

/-!
This module contains the document scanner of the iOS Home screen: `DocumentScanner` with its two
effects, `IOSDocumentScannerLauncher`, the blocks it dispatches to the main queue and the delegates
of the controllers it presents.

A controller holds its delegate weakly, so a delegate that no reachable launcher has as its
`activeDelegate` may be freed at any time, and its controller then reports nothing. A dismissal
takes effect at once, one of a covered controller dismisses what covers it.
-/

open Compose

namespace MeeScanner
namespace DocumentLauncher

-- `launcher` is the launcher that presented the controller, it made the delegate too.
structure Controller where
  id : Nat
  launcher : Nat
  hasDelegate : Bool := true
  deriving DecidableEq, Repr

-- `launchers` are the active delegates of all launchers, a delegate is named by its controller.
-- `presented` has the controller on top first.
structure State where
  documentViewModel : DocumentViewModel := {}
  inComposition : Bool := false
  trigger : Bool := false
  launcherEffect : LaunchedEffect Unit Unit := .absent
  triggerEffect : LaunchedEffect Bool Bool := .absent
  launcherRef : Option Nat := none
  launchers : List (Option Nat) := []
  mainQueue : List Nat := []
  presented : List Controller := []
  nextId : Nat := 0
  scans : List ScanResult := []
  deriving DecidableEq, Repr

inductive Event where
  | documentTabTapped
  | collectOpenScanner
  | recompose
  | runLauncherEffect
  | runTriggerEffect
  | runMainQueue (supported hasRoot : Bool)
  | free (id : Nat)
  | didCancel (id : Nat)
  | didFailWithError (id : Nat) (localizedDescription : Option String)
  | didFinishWithScan (id : Nat) (env : DocumentCamera.Env)
      (scan : DocumentCamera.VNDocumentCameraScan)
  | enterComposition
  | leaveComposition

namespace State

def onResult (s : State) (result : DocumentScanResult) : State :=
  {
    s with
    documentViewModel := s.documentViewModel.onScanSuccess result
    scans := s.scans ++ [.documentResult result.pageCount result.pdfUri result.pages]
  }

def onError (s : State) (message : String) : State :=
  { s with documentViewModel := s.documentViewModel.onScanError message }

def onFinished (s : State) (launcher : Nat) : State :=
  { s with launchers := s.launchers.set launcher none }

def dismiss (s : State) (id : Nat) : State :=
  match s.presented with
  | [] => s
  | top :: covered =>
    { s with presented := if top.id = id then covered else s.presented.dropWhile (·.id ≠ id) }

-- What a callback of the delegate does to the rest of the app.
def perform (controller : Controller) (s : State) : DocumentCamera.Call → State
  | .dismiss => s.dismiss controller.id
  | .onResult result => s.onResult result
  | .onError message => s.onError message
  | .onFinished => s.onFinished controller.launcher

def callback (s : State) (id : Nat) (calls : List DocumentCamera.Call) : Option State :=
  match s.presented.find? (·.id = id) with
  | none => none
  | some controller =>
    if controller.hasDelegate then some (calls.foldl (perform controller) s) else none

def reachable (s : State) (launcher : Nat) : Bool :=
  s.launcherRef = some launcher ∨ launcher ∈ s.mainQueue

def retained (s : State) (controller : Controller) : Bool :=
  (List.range s.launchers.length).any fun launcher =>
    s.reachable launcher ∧ s.launchers[launcher]? = some (some controller.id)

def free (s : State) (id : Nat) : Option State :=
  match s.presented.find? (·.id = id) with
  | none => none
  | some controller =>
    if controller.hasDelegate ∧ s.retained controller = false then
      some {
        s with
        presented := s.presented.map fun c =>
          if c.id = id then { c with hasDelegate := false } else c
      }
    else
      none

def documentScanner (s : State) : State :=
  {
    s with
    launcherEffect := s.launcherEffect.compose () ()
    triggerEffect := s.triggerEffect.compose s.trigger s.trigger
  }

def runLauncherEffect (s : State) : Option State :=
  match s.launcherEffect.scheduled with
  | none => none
  | some () =>
    some {
      s with
      launcherEffect := s.launcherEffect.ran
      launcherRef := some s.launchers.length
      launchers := s.launchers ++ [none]
    }

-- The effects of one composition run in the order of their calls.
def runTriggerEffect (s : State) : Option State :=
  match s.launcherEffect.scheduled, s.triggerEffect.scheduled with
  | none, some trigger =>
    let s := { s with triggerEffect := s.triggerEffect.ran }
    if trigger then
      match s.launcherRef with
      | none => some s
      | some launcher => some { s with mainQueue := s.mainQueue ++ [launcher] }
    else
      some s
  | _, _ => none

def present (s : State) (launcher : Nat) : State :=
  {
    s with
    presented := ⟨s.nextId, launcher, true⟩ :: s.presented
    launchers := s.launchers.set launcher (some s.nextId)
    nextId := s.nextId + 1
  }

-- The top view controller is null only where the key window has no root.
def runMainQueue (s : State) (supported hasRoot : Bool) : Option State :=
  match s.mainQueue with
  | [] => none
  | launcher :: mainQueue =>
    let s := { s with mainQueue := mainQueue }
    if supported then
      if hasRoot then
        some (s.present launcher)
      else
        some (s.onError "Unable to open the iOS document scanner from the current screen.")
    else
      some (s.onError "This iPhone or iPad does not support document scanning.")

def enterComposition (s : State) : Option State :=
  if s.inComposition then
    none
  else
    some { s with inComposition := true, trigger := s.documentViewModel.openScanner }.documentScanner

def leaveComposition (s : State) : Option State :=
  if s.inComposition then
    some {
      s with
      inComposition := false
      launcherEffect := .absent
      triggerEffect := .absent
      launcherRef := none
    }
  else
    none

end State

def init : State := {}

def step (s : State) : Event → Option State
  | .documentTabTapped =>
    if s.inComposition then
      some { s with documentViewModel := s.documentViewModel.onDocumentTabTapped }
    else
      none
  | .collectOpenScanner =>
    if s.inComposition then
      some { s with trigger := s.documentViewModel.openScanner }
    else
      none
  | .recompose => if s.inComposition then some s.documentScanner else none
  | .runLauncherEffect => s.runLauncherEffect
  | .runTriggerEffect => s.runTriggerEffect
  | .runMainQueue supported hasRoot => s.runMainQueue supported hasRoot
  | .free id => s.free id
  | .didCancel id => s.callback id [.dismiss, .onError "User cancelled scan", .onFinished]
  | .didFailWithError id localizedDescription =>
    let message := localizedDescription.getD "Document scan failed on iOS."
    s.callback id [.dismiss, .onError message, .onFinished]
  | .didFinishWithScan id env scan =>
    s.callback id (DocumentCamera.documentCameraViewController env scan).calls
  | .enterComposition => s.enterComposition
  | .leaveComposition => s.leaveComposition

end DocumentLauncher
end MeeScanner
