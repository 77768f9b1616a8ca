import Mathlib.Algebra.Group.Int.Defs
import Mathlib.Algebra.Group.Nat.Defs
import Mathlib.Data.Option.Basic

/-!
This module contains the data of a scan: the analyzer types, bitmaps and the scan results.

A `Bitmap` shows a window of a picture: its pixel `(x, y)` is pixel `(left + x, top + y)` of the
picture. It stands for what it shows, two bitmaps of the same pixels are one value. Where Kotlin
throws, as `createBitmap` does on a window outside of its source, the result is `none`. A `Float` is
held as its 32 bits.
-/

namespace MeeScanner

inductive AnalyzerType where
  | qr
  | text
  | object
  | document
  | photo
  deriving DecidableEq, Repr

namespace AnalyzerType

def name : AnalyzerType → String
  | .qr => "QR"
  | .text => "TEXT"
  | .object => "OBJECT"
  | .document => "DOCUMENT"
  | .photo => "PHOTO"

theorem name_injective {a b : AnalyzerType} (h : a.name = b.name) : a = b := by
  cases a <;> cases b <;> first | rfl | (revert h; decide)

@[simp]
theorem name_inj {a b : AnalyzerType} : a.name = b.name ↔ a = b := by
  constructor
  . exact name_injective
  . intro h
    rw [h]

end AnalyzerType

def toInt32 (x : Int) : Int := Int.bmod x (2 ^ 32)

structure Bitmap where
  picture : Nat
  left : Int
  top : Int
  width : Int
  height : Int
  hwidth : 0 < width ∧ width < 2 ^ 31
  hheight : 0 < height ∧ height < 2 ^ 31
  deriving DecidableEq, Repr

def Bitmap.createBitmap (source : Bitmap) (x y width height : Int) : Option Bitmap :=
  if h : (0 ≤ x ∧ 0 ≤ y) ∧ (0 < width ∧ 0 < height)
      ∧ x + width ≤ source.width ∧ y + height ≤ source.height then
    some {
      picture := source.picture
      left := source.left + x
      top := source.top + y
      width := width
      height := height
      hwidth := by have := source.hwidth; omega
      hheight := by have := source.hheight; omega
    }
  else
    none

structure DetectedObjectInfo where
  label : String
  confidence : BitVec 32
  boundingLeft : Int
  boundingTop : Int
  boundingRight : Int
  boundingBottom : Int
  croppedImage : Option Bitmap
  deriving DecidableEq, Repr

structure ScannedDocumentPage where
  imageUri : String
  deriving DecidableEq, Repr

structure DocumentScanResult where
  pageCount : Int
  pdfUri : Option String := none
  pages : List ScannedDocumentPage := []
  deriving DecidableEq, Repr

inductive ScanResult where
  | qrResult (rawValue : String) (frame : Option Bitmap)
  | textResult (text : String) (frame : Option Bitmap)
  | objectResult (frame : Option Bitmap) (objects : List DetectedObjectInfo)
  | documentResult (pageCount : Int) (pdfUri : Option String) (pages : List ScannedDocumentPage)
  deriving DecidableEq, Repr

namespace ScanResult

def kind : ScanResult → AnalyzerType
  | .qrResult .. => .qr
  | .textResult .. => .text
  | .objectResult .. => .object
  | .documentResult .. => .document

def isQr : ScanResult → Bool
  | .qrResult .. => true
  | _ => false

def isCapture : ScanResult → Bool
  | .textResult .. => true
  | .objectResult .. => true
  | _ => false

end ScanResult
end MeeScanner
