import MeeScanner.Transition
import MeeScanner.Compose
import MeeScanner.History.UseCase
import MeeScanner.Home.ObjectCapture
import MeeScanner.Camera.Lemmas.Step
import MeeScanner.Camera.Lemmas.Capture
import MeeScanner.Camera.Lemmas.Filing
import MeeScanner.Camera.Lemmas.Frames
import MeeScanner.Camera.Lemmas.QrScan
import MeeScanner.Camera.Lemmas.Wedge
import MeeScanner.Document.Impl
import MeeScanner.Document.Lemmas.Launch
import MeeScanner.History.Impl
import MeeScanner.History.Lemmas.Refine
import MeeScanner.App.Impl
import MeeScanner.App.Lemmas.Step
import MeeScanner.History.Lemmas.Order
import MeeScanner.App.Lemmas.BackStack
import MeeScanner.App.Lemmas.OpenOnce
import MeeScanner.DocumentCamera.Impl
import MeeScanner.DocumentCamera.Lemmas.Run
import MeeScanner.DocumentCamera.Lemmas.AllOrNothing
import MeeScanner.Clamp
import MeeScanner.Home.Crop
import MeeScanner.Camera.Lemmas.Release
import MeeScanner.Camera.Preview
import MeeScanner.History.Lemmas.Render
import MeeScanner.DetailSheet.Impl
import MeeScanner.DetailSheet.Lemmas.NullCheck
import MeeScanner.DocumentCamera.Lemmas.Pages
import MeeScanner.FirstMatch
import MeeScanner.IgnoreCase
import MeeScanner.QrContent.Impl
import MeeScanner.QrContent.Lemmas.Classify
import MeeScanner.AppResolver.Impl
import MeeScanner.AppResolver.Lemmas.OpenRow
import MeeScanner.Component
import MeeScanner.System.Impl
import MeeScanner.System.Lemmas.Parts
import MeeScanner.System.Lemmas.Listed
import MeeScanner.App.Lemmas.Shown
import MeeScanner.System.Lemmas.Shown
import MeeScanner.DocumentLauncher.Impl
import MeeScanner.DocumentLauncher.Lemmas.Step
import MeeScanner.DocumentLauncher.Lemmas.Launch
import MeeScanner.Camera.Lemmas.Bound
import MeeScanner.Reaches
import MeeScanner.Camera.Lemmas.Recover
import MeeScanner.History.Lemmas.Settle
import MeeScanner.DetailSheet.Lemmas.CatchUp
import MeeScanner.App.Lemmas.Return
import MeeScanner.Document.Lemmas.Reopen
import MeeScanner.ScannedFiles.Impl
import MeeScanner.ScannedFiles.Lemmas.Overlay
import MeeScanner.ScannedFiles.Lemmas.Kept
import MeeScanner.Rest
import MeeScanner.Camera.Lemmas.Rest
import MeeScanner.Document.Lemmas.Rest
import MeeScanner.DocumentLauncher.Lemmas.Rest
import MeeScanner.History.Lemmas.Rest
