import Mathlib.Logic.Function.Basic
import MeeScanner.Home.Util

/-!
This module contains the delegate of the iOS document camera. `documentCameraViewController` is the
callback that a finished scan ends in: it saves one JPEG for each page, draws the pages into a PDF
and reports the result.

The files are those of one callback, their names are new, so no other file is touched. A `CGFloat`
is held as its 64 bits.
-/

namespace MeeScanner
namespace DocumentCamera

-- `jpegRepresentation` is what `UIImageJPEGRepresentation(image, 0.94)` returns.
structure UIImage where
  picture : Nat
  width : BitVec 64
  height : BitVec 64
  jpegRepresentation : Option (List UInt8)
  deriving DecidableEq, Repr

structure VNDocumentCameraScan where
  pageCount : Nat
  imageOfPageAtIndex : Nat → UIImage

structure PdfPage where
  image : UIImage
  width : BitVec 64
  height : BitVec 64
  deriving DecidableEq, Repr

inductive File where
  | jpeg (data : List UInt8)
  | pdf (pages : List PdfPage)
  deriving DecidableEq, Repr

inductive Call where
  | dismiss
  | onResult (result : DocumentScanResult)
  | onError (message : String)
  | onFinished
  deriving DecidableEq, Repr

def trimEnd (s : String) (c : Char) : String :=
  String.ofList (s.toList.reverse.dropWhile (· = c)).reverse

-- What the system answers: the `k`th UUID, the temporary directory, whether a file or a PDF can be
-- created at a path, and the URL of a path.
structure Device where
  uuidString : Nat → String
  temporaryDirectory : String
  createsFile : String → Bool
  opensPdf : String → Bool
  absoluteString : String → Option String

namespace Device

def temporaryFilePath (device : Device) (k : Nat) (extension : String) : String :=
  let fileName := "scan-" ++ device.uuidString k ++ "." ++ extension
  trimEnd device.temporaryDirectory '/' ++ "/" ++ fileName

def fileUri (device : Device) (path : String) : String := (device.absoluteString path).getD path

end Device

structure Env extends Device where
  uuidString_injective : Function.Injective uuidString
  fileUri_injective : ∀ k k' extension extension',
    toDevice.fileUri (toDevice.temporaryFilePath k extension)
        = toDevice.fileUri (toDevice.temporaryFilePath k' extension') →
      toDevice.temporaryFilePath k extension = toDevice.temporaryFilePath k' extension'

structure State where
  files : List (String × File) := []
  names : Nat := 0
  pdfContext : Option (String × List PdfPage) := none
  pdfContexts : List String := []
  calls : List Call := []
  deriving DecidableEq, Repr

namespace State

def write (s : State) (path : String) (file : File) : State :=
  { s with files := s.files.filter (·.1 ≠ path) ++ [(path, file)] }

def named (s : State) : State := { s with names := s.names + 1 }

def call (s : State) (call : Call) : State := { s with calls := s.calls ++ [call] }

-- The Boolean that says whether the file was created is not read.
def createFileAtPath (s : State) (env : Env) (path : String) (contents : List UInt8) : State :=
  if env.createsFile path then s.write path (.jpeg contents) else s

def beginPDFContextToFile (s : State) (env : Env) (path : String) : State :=
  if env.opensPdf path then
    { s with pdfContext := some (path, []), pdfContexts := s.pdfContexts ++ [path] }
  else
    s

def drawPage (s : State) (image : UIImage) : State :=
  {
    s with
    pdfContext := s.pdfContext.map fun context =>
      (context.1, context.2 ++ [⟨image, image.width, image.height⟩])
  }

def endPDFContext (s : State) : State :=
  match s.pdfContext with
  | none => s
  | some (path, pages) => { s.write path (.pdf pages) with pdfContext := none }

end State

namespace VNDocumentCameraScan

def count (scan : VNDocumentCameraScan) : Int := toInt32 scan.pageCount

-- The images of `index in 0 until pageCount`, which both loops go through.
def images (scan : VNDocumentCameraScan) : List UIImage :=
  (List.range scan.count.toNat).map scan.imageOfPageAtIndex

end VNDocumentCameraScan

def savePages (env : Env) (savedPages : List ScannedDocumentPage) (s : State)
    : List UIImage → Except (Option String) (List ScannedDocumentPage) × State
  | [] => (.ok savedPages, s)
  | image :: images =>
    let pagePath := env.temporaryFilePath s.names "jpg"
    let s := s.named
    match image.jpegRepresentation with
    | none => (.error (some "Unable to encode scanned page."), s)
    | some jpegData =>
      let s := s.createFileAtPath env pagePath jpegData
      savePages env (savedPages ++ [⟨env.fileUri pagePath⟩]) s images

def createPdfFromScan (env : Env) (s : State) (images : List UIImage) (pdfPath : String) : State :=
  (images.foldl State.drawPage (s.beginPDFContextToFile env pdfPath)).endPDFContext

def buildResult (env : Env) (s : State) (pageCount : Int) (images : List UIImage)
    : Except (Option String) DocumentScanResult × State :=
  match savePages env [] s images with
  | (.error message, s) => (.error message, s)
  | (.ok savedPages, s) =>
    let pdfPath := env.temporaryFilePath s.names "pdf"
    let s := createPdfFromScan env s.named images pdfPath
    let result : DocumentScanResult := {
      pageCount := pageCount
      pdfUri := some (env.fileUri pdfPath)
      pages := savedPages
    }
    (.ok result, s)

def finishWith (env : Env) (pageCount : Int) (images : List UIImage) : State :=
  match buildResult env (State.call {} .dismiss) pageCount images with
  | (.ok result, s) => (s.call (.onResult result)).call .onFinished
  | (.error message, s) =>
    (s.call (.onError (message.getD "Unable to build PDF from scanned pages."))).call .onFinished

-- didFinishWithScan
def documentCameraViewController (env : Env) (scan : VNDocumentCameraScan) : State :=
  finishWith env scan.count scan.images

end DocumentCamera
end MeeScanner
