import MeeScanner.App.Impl
import MeeScanner.Camera.Impl
import MeeScanner.Component
import MeeScanner.Document.Impl
import MeeScanner.History.Lemmas.Refine

/-!
This module contains the Android app as a whole: the camera and the document scanner of Home, the
navigation of `App` and the history. A main thread entry is an event of one of the four, what it
does to the others is the lambda that `App` hands to `HomeScreen`: set the result, store it and
navigate to Result.

Home's two parts enter and leave the composition with the destination, which is the first entry of
the back stack. The history screen is followed through one composition at a time. Activity
recreation is left out, a recreated activity navigates with a controller of its own. So is the
detail sheet of the history, with the row it selects and its Open button: `opened` are the links
that Result screens open, the sheet opens the data of a row through `processQr` as well.
-/

open Transition

namespace MeeScanner

-- The scan that App's lambda is called with in this step.
def Camera.State.call? (s : Camera.State) : Camera.Event → Option History.Call
  | .barcodeSuccess task (barcode :: _) bitmap now =>
    some ⟨.qrResult (barcode.getD "") bitmap, s.analyzerTypeOf task.launch.visit, now⟩
  | .textSuccess task text bitmap now =>
    some ⟨.textResult text bitmap, s.analyzerTypeOf task.launch.visit, now⟩
  | .objectSuccess task objects bitmap now =>
    match task.recognition with
    | .objects originalBitmap _ =>
      (detectedObjects originalBitmap objects).map fun infos =>
        ⟨.objectResult bitmap infos, s.analyzerTypeOf task.launch.visit, now⟩
    | _ => none
  | .documentResult result now =>
    some ⟨.documentResult result.pageCount result.pdfUri result.pages, .document, now⟩
  | _ => none

def Document.Event.result? : Document.Event → Option DocumentScanResult
  | .activityResult resultCode (some gmsResult) =>
    if resultCode = Document.resultOk then some (Document.scanResult gmsResult) else none
  | _ => none

namespace System

structure State where
  camera : Camera.State := {}
  document : Document.State := {}
  app : App.State := {}
  history : History.State := {}
  deriving DecidableEq, Repr

inductive Event where
  | enterHome (granted hasActivity : Bool)
  | leaveHome (composition : App.Composition)
  | camera (event : Camera.Event)
  | document (event : Document.Event) (now : Int)
  | app (event : App.Event)
  | history (event : History.Event)
  deriving DecidableEq, Repr

-- The events that are not steps on their own are those the other parts make a part take.
def Event.own : Event → Bool
  | .leaveHome c => c.entry.route = .home
  | .camera (.documentResult ..) => false
  | .camera (.enterComposition _) => false
  | .camera .leaveComposition => false
  | .document (.enterComposition _) _ => false
  | .document .leaveComposition _ => false
  | .app (.scanDelivered ..) => false
  | .app .recreate => false
  | .app (.enter entry) => entry.route ≠ .home
  | .app (.leave c) => c.entry.route ≠ .home
  | .history (.storeResult ..) => false
  | _ => true

def Event.documentEvents : Event → List Document.Event
  | .enterHome _ hasActivity => [.enterComposition hasActivity]
  | .leaveHome _ => [.leaveComposition]
  | .document event _ => [event]
  | _ => []

def Event.cameraEvents : Event → List Camera.Event
  | .enterHome granted _ => [.enterComposition granted]
  | .leaveHome _ => [.leaveComposition]
  | .camera event => [event]
  | .document event now => event.result?.toList.map fun result => .documentResult result now
  | _ => []

namespace State

def calls (s : State) (e : Event) : List History.Call := e.cameraEvents.filterMap s.camera.call?

def appEvents (s : State) (e : Event) : List App.Event :=
  match e with
  | .enterHome .. => [.enter ⟨0, .home⟩]
  | .leaveHome c => [.leave c]
  | .app event => [event]
  | e => (s.calls e).map fun call => .scanDelivered call.result call.analyzerType

def historyEvents (s : State) (e : Event) : List History.Event :=
  match e with
  | .history event => [event]
  | e => (s.calls e).map fun call => .storeResult call.result call.analyzerType call.now

end State

def init : State := {}

def step (s : State) (e : Event) : Option State :=
  if e.own then do
    let document ← exec Document.step s.document e.documentEvents
    let camera ← exec Camera.step s.camera e.cameraEvents
    let app ← exec App.step s.app (s.appEvents e)
    let history ← exec History.step s.history (s.historyEvents e)
    some { camera, document, app, history }
  else
    none

end System
end MeeScanner
