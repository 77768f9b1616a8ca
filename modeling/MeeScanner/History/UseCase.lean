import MeeScanner.Home.Util

/-!
This module contains the row that a scan is stored as. `saveHistory` is the row that the use case
hands to the repository when the clock reads `now`, it has id 0 until it is inserted.
-/

namespace MeeScanner

structure ScanHistoryEntity where
  id : Int := 0
  scanType : String
  title : String
  data : String
  createdAt : Int
  deriving DecidableEq, Repr

namespace ScanHistoryUseCase

def saveHistory (result : ScanResult) (analyzerType : AnalyzerType) (now : Int)
    : ScanHistoryEntity :=
  match result with
  | .qrResult rawValue _ =>
    { scanType := analyzerType.name, title := "QR Code", data := rawValue, createdAt := now }
  | .textResult text _ =>
    { scanType := analyzerType.name, title := "Text Scan", data := text, createdAt := now }
  | .documentResult _ pdfUri _ =>
    {
      scanType := analyzerType.name
      title := "Document"
      data := pdfUri.getD ""
      createdAt := now
    }
  | .objectResult _ objects =>
    {
      scanType := analyzerType.name
      title := "Object Detection"
      data := ",".intercalate (objects.map (·.label))
      createdAt := now
    }

variable (result : ScanResult) (analyzerType : AnalyzerType) (now : Int)

@[simp]
theorem saveHistory_id : (saveHistory result analyzerType now).id = 0 := by
  cases result <;> rfl

@[simp]
theorem saveHistory_scanType
    : (saveHistory result analyzerType now).scanType = analyzerType.name := by
  cases result <;> rfl

@[simp]
theorem saveHistory_createdAt : (saveHistory result analyzerType now).createdAt = now := by
  cases result <;> rfl

end ScanHistoryUseCase
end MeeScanner
