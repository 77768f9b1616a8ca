import MeeScanner.Home.Util

/-!
This module contains the flows of `HomeViewModel` and the tabs of `HomeScreen`.
-/

namespace MeeScanner

structure HomeViewModel where
  selectedTab : String := "QR Scanner"
  selectedAnalyzer : AnalyzerType := .qr
  triggerCapture : Bool := false
  deriving DecidableEq, Repr

namespace HomeViewModel

def onCaptureTrigger (vm : HomeViewModel) : HomeViewModel := { vm with triggerCapture := true }

def onCaptureCompleted (vm : HomeViewModel) : HomeViewModel := { vm with triggerCapture := false }

def analyzerOfTab (tab : String) : AnalyzerType :=
  if tab = "QR Scanner" then
    .qr
  else if tab = "Text Analyzer" then
    .text
  else if tab = "Object Detection" then
    .object
  else if tab = "Document" then
    .document
  else if tab = "Photo" then
    .photo
  else
    .qr

def onTabSelected (vm : HomeViewModel) (tab : String) : HomeViewModel :=
  { vm with selectedTab := tab, selectedAnalyzer := analyzerOfTab tab }

end HomeViewModel

namespace HomeScreen

def tabs : List String :=
  ["QR Scanner", "Object Detection", "Text Analyzer", "Document", "Photo"]

end HomeScreen
end MeeScanner
