import MeeScanner.DocumentLauncher.Impl

/-!
This module contains the document scanner of the iOS Home screen together with the files it leaves:
the scans that the launcher's controllers finish all write to one temporary directory, one callback
after the other on the main thread. Nothing else touches the directory while the app runs.
-/

namespace MeeScanner
namespace DocumentCamera

-- `finishWith` with the files and the names that are there before the callback.
def finishFrom (env : Env) (s : State) (pageCount : Int) (images : List UIImage) : State :=
  match buildResult env (s.call .dismiss) pageCount images with
  | (.ok result, s) => (s.call (.onResult result)).call .onFinished
  | (.error message, s) =>
    (s.call (.onError (message.getD "Unable to build PDF from scanned pages."))).call .onFinished

theorem finishFrom_empty (env : Env) (pageCount : Int) (images : List UIImage)
    : finishFrom env {} pageCount images = finishWith env pageCount images := by
  unfold finishFrom finishWith
  cases buildResult env (State.call {} .dismiss) pageCount images with
  | mk outcome built => cases outcome <;> rfl

end DocumentCamera

namespace ScannedFiles

structure State where
  launcher : DocumentLauncher.State := {}
  files : List (String × DocumentCamera.File) := []
  names : Nat := 0
  deriving DecidableEq, Repr

inductive Event where
  | didFinishWithScan (id : Nat) (scan : DocumentCamera.VNDocumentCameraScan)
  | launcher (event : DocumentLauncher.Event)

namespace State

def directory (s : State) : DocumentCamera.State := { files := s.files, names := s.names }

def didFinishWithScan (s : State) (env : DocumentCamera.Env) (id : Nat)
    (scan : DocumentCamera.VNDocumentCameraScan) : Option State :=
  let finished := DocumentCamera.finishFrom env s.directory scan.count scan.images
  (s.launcher.callback id finished.calls).map fun launcher =>
    { launcher, files := finished.files, names := finished.names }

end State

def init : State := {}

-- A scan that the launcher finishes on its own has no directory to write to.
def step (env : DocumentCamera.Env) (s : State) : Event → Option State
  | .didFinishWithScan id scan => s.didFinishWithScan env id scan
  | .launcher (.didFinishWithScan ..) => none
  | .launcher event =>
    (DocumentLauncher.step s.launcher event).map fun launcher => { s with launcher }

end ScannedFiles
end MeeScanner
