import MeeScanner.Compose
import MeeScanner.Transition
import MeeScanner.Home.Util

/-!
This module contains the navigation of `App`: the back stack of its `NavHost`, the destinations in
the composition, `ResultViewModel`, and the effect of `ResultScreen` that opens the link of a scan.

A destination may enter the composition while it is on the back stack. It stays there, and is
clickable, until it leaves, also after it was popped. Scans are delivered at any time. An activity
recreation keeps the view models and the back stack and drops every composition, and the graph
starts with Home again where nothing is left on the stack. System back on the last entry leaves the
app: a run that goes on is one where the user returns to it, an app that is started anew is another
run.
-/

open Compose

namespace MeeScanner

structure ResultViewModel where
  scanResult : Option ScanResult := none
  deriving DecidableEq, Repr

def ResultViewModel.setResult (_vm : ResultViewModel) (result : ScanResult) : ResultViewModel :=
  { scanResult := some result }

namespace App

inductive Route where
  | home
  | result
  | history
  deriving DecidableEq, Repr

structure Entry where
  id : Nat
  route : Route
  deriving DecidableEq, Repr

structure Composition where
  entry : Entry
  scanResult : Option ScanResult := none
  effect : LaunchedEffect (Option ScanResult) Unit := .absent
  deriving DecidableEq, Repr

-- `opened` are the links that the effect handed to `processQr`, `unseen` is the entry that the last
-- scan pushed, until it is composed.
structure State where
  backStack : List Entry := [⟨0, .home⟩]
  nextId : Nat := 1
  composed : List Composition := []
  resultViewModel : ResultViewModel := {}
  scans : List (ScanResult × AnalyzerType) := []
  opened : List String := []
  unseen : Option Nat := none
  deriving DecidableEq, Repr

inductive Event where
  | scanDelivered (result : ScanResult) (analyzerType : AnalyzerType)
  | historyClick (composition : Composition)
  | backClick (composition : Composition)
  | systemBack
  | enter (entry : Entry)
  | leave (composition : Composition)
  | recreate
  | collectScanResult (composition : Composition)
  | recompose (composition : Composition)
  | runEffect (composition : Composition)
  deriving DecidableEq, Repr

def Composition.resultScreen (c : Composition) : Composition :=
  { c with effect := c.effect.compose c.scanResult () }

namespace State

def navigate (s : State) (route : Route) : State :=
  { s with backStack := s.backStack ++ [⟨s.nextId, route⟩], nextId := s.nextId + 1 }

def popBackStack (s : State) : State := { s with backStack := s.backStack.dropLast }

-- `NavHost` navigates to its start destination where the restored stack is empty.
def recreate (s : State) : State :=
  let s := { s with composed := [] }
  if s.backStack = [] then s.navigate .home else s

def onScanResult (s : State) (result : ScanResult) (analyzerType : AnalyzerType) : State :=
  let s := { s with resultViewModel := s.resultViewModel.setResult result }
  let s := { s with scans := s.scans ++ [(result, analyzerType)], unseen := some s.nextId }
  s.navigate .result

def replace (s : State) (c c' : Composition) : State :=
  { s with composed := c' :: s.composed.erase c }

def composition (s : State) (entry : Entry) : Composition :=
  match entry.route with
  | .result => { entry := entry, scanResult := s.resultViewModel.scanResult : Composition }.resultScreen
  | _ => { entry := entry }

@[simp]
theorem composition_entry (s : State) (entry : Entry) : (s.composition entry).entry = entry := by
  unfold composition
  split <;> rfl

def enter (s : State) (entry : Entry) : Option State :=
  if entry ∈ s.backStack ∧ ∀ c ∈ s.composed, c.entry ≠ entry then
    some {
      s with
      composed := s.composed ++ [s.composition entry]
      unseen := if s.unseen = some entry.id then none else s.unseen
    }
  else
    none

def processQr (s : State) (rawValue : String) : State := { s with opened := s.opened ++ [rawValue] }

-- The block reads the collected state when it runs.
def runEffect (s : State) (c : Composition) : Option State :=
  if c ∈ s.composed ∧ c.entry.route = .result then
    match c.effect.scheduled with
    | none => none
    | some () =>
      let s := s.replace c { c with effect := c.effect.ran }
      match c.scanResult with
      | some (.qrResult rawValue _) => some (s.processQr rawValue)
      | _ => some s
  else
    none

end State

def init : State := {}

def step (s : State) : Event → Option State
  | .scanDelivered result analyzerType => some (s.onScanResult result analyzerType)
  | .historyClick c =>
    if c ∈ s.composed ∧ c.entry.route = .home then some (s.navigate .history) else none
  | .backClick c =>
    if c ∈ s.composed ∧ c.entry.route = .history then some s.popBackStack else none
  | .systemBack => if 1 < s.backStack.length then some s.popBackStack else some s
  | .enter entry => s.enter entry
  | .leave c => if c ∈ s.composed then some { s with composed := s.composed.erase c } else none
  | .recreate => some s.recreate
  | .collectScanResult c =>
    if c ∈ s.composed ∧ c.entry.route = .result then
      some (s.replace c { c with scanResult := s.resultViewModel.scanResult })
    else
      none
  | .recompose c =>
    if c ∈ s.composed ∧ c.entry.route = .result then
      some (s.replace c c.resultScreen)
    else
      none
  | .runEffect c => s.runEffect c

end App
end MeeScanner
