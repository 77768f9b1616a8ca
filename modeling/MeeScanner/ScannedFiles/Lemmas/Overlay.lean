import MeeScanner.Component
import MeeScanner.DocumentCamera.Lemmas.Run
import MeeScanner.ScannedFiles.Impl

/-!
This module contains what one callback is among others: the callback on its own, run with the names
that come next, laid over the files that were there. Paths of its own replace older ones, and there
are none, since a name is generated once.
-/

open Transition

namespace MeeScanner
namespace DocumentCamera

-- The device after it has generated some names.
def Env.after (env : Env) (names : Nat) : Env where
  toDevice := { env.toDevice with uuidString := fun k => env.uuidString (names + k) }
  uuidString_injective := by
    intro k k' h
    exact Nat.add_left_cancel (env.uuidString_injective h)
  fileUri_injective := by
    intro k k' extension extension' h
    exact env.fileUri_injective (names + k) (names + k') extension extension' h

theorem temporaryFilePath_after (env : Env) (names k : Nat) (extension : String)
    : (env.after names).temporaryFilePath k extension
        =
      env.temporaryFilePath (names + k) extension := by
  rfl

namespace State

def overlay (base r : State) : State :=
  {
    r with
    files := base.files.filter (fun file => file.1 ∉ r.files.map Prod.fst) ++ r.files
    names := base.names + r.names
  }

section

variable {env : Env} {base r : State}

theorem overlay_call (call : Call) : (base.overlay r).call call = base.overlay (r.call call) := by
  rfl

theorem mem_paths_write {path other : String} {file : File}
    : other ∈ (r.write path file).files.map Prod.fst
        ↔
      other ∈ r.files.map Prod.fst ∨ other = path := by
  by_cases hpath : other = path <;> simp [write, hpath]

theorem overlay_write (path : String) (file : File)
    : (base.overlay r).write path file = base.overlay (r.write path file) := by
  have hfiles : ((base.overlay r).write path file).files = (base.overlay (r.write path file)).files := by
    unfold overlay
    simp only [mem_paths_write]
    simp only [write, List.filter_append, List.filter_filter, List.append_assoc,
      List.append_cancel_right_eq]
    apply List.filter_congr
    intro other _
    simp [not_or, Bool.and_comm]
  calc
    (base.overlay r).write path file
      = { base.overlay r with files := ((base.overlay r).write path file).files } := rfl
    _ = { base.overlay r with files := (base.overlay (r.write path file)).files } := by rw [hfiles]
    _ = base.overlay (r.write path file) := rfl

theorem overlay_createFileAtPath (path : String) (contents : List UInt8)
    : (base.overlay r).createFileAtPath env path contents
        =
      base.overlay (r.createFileAtPath (env.after base.names) path contents) := by
  unfold createFileAtPath
  split
  . next hcreates => rw [if_pos (by exact hcreates), overlay_write]
  . next hcreates => rw [if_neg (by exact hcreates)]

theorem overlay_beginPDFContextToFile (path : String)
    : (base.overlay r).beginPDFContextToFile env path
        =
      base.overlay (r.beginPDFContextToFile (env.after base.names) path) := by
  unfold beginPDFContextToFile
  split
  . next hopens => rw [if_pos (by exact hopens)]; rfl
  . next hopens => rw [if_neg (by exact hopens)]

theorem overlay_drawPage (image : UIImage)
    : (base.overlay r).drawPage image = base.overlay (r.drawPage image) := by
  rfl

theorem overlay_foldl_drawPage (images : List UIImage)
    : images.foldl drawPage (base.overlay r) = base.overlay (images.foldl drawPage r) := by
  induction images generalizing r with
  | nil => rfl
  | cons image images ih => rw [List.foldl_cons, List.foldl_cons, overlay_drawPage, ih]

theorem overlay_endPDFContext : (base.overlay r).endPDFContext = base.overlay r.endPDFContext := by
  have hcontext : (base.overlay r).pdfContext = r.pdfContext := rfl
  unfold endPDFContext
  rw [hcontext]
  split
  . rfl
  . next path pages _ =>
    rw [overlay_write]
    rfl

end

end State

section

variable {env : Env} {base r : State}

theorem savePages_overlay (images : List UIImage) (savedPages : List ScannedDocumentPage)
    : savePages env savedPages (base.overlay r) images
        =
      ((savePages (env.after base.names) savedPages r images).1,
        base.overlay (savePages (env.after base.names) savedPages r images).2) := by
  induction images generalizing r savedPages with
  | nil => rfl
  | cons image images ih =>
    simp only [savePages]
    cases hjpeg : image.jpegRepresentation with
    | none => rfl
    | some jpegData =>
      change savePages env _ ((base.overlay r.named).createFileAtPath env _ jpegData) images = _
      rw [State.overlay_createFileAtPath, ih]
      rfl

theorem createPdfFromScan_overlay (images : List UIImage) (pdfPath : String)
    : createPdfFromScan env (base.overlay r) images pdfPath
        =
      base.overlay (createPdfFromScan (env.after base.names) r images pdfPath) := by
  unfold createPdfFromScan
  rw [State.overlay_beginPDFContextToFile, State.overlay_foldl_drawPage, State.overlay_endPDFContext]

theorem buildResult_overlay (pageCount : Int) (images : List UIImage)
    : buildResult env (base.overlay r) pageCount images
        =
      ((buildResult (env.after base.names) r pageCount images).1,
        base.overlay (buildResult (env.after base.names) r pageCount images).2) := by
  unfold buildResult
  rw [savePages_overlay]
  cases savePages (env.after base.names) [] r images with
  | mk outcome saved =>
    cases outcome with
    | error message => rfl
    | ok savedPages =>
      change (_, createPdfFromScan env (base.overlay saved.named) images _) = _
      rw [createPdfFromScan_overlay]
      rfl

theorem finishFrom_overlay (pageCount : Int) (images : List UIImage)
    : finishFrom env (base.overlay r) pageCount images
        =
      base.overlay (finishFrom (env.after base.names) r pageCount images) := by
  unfold finishFrom
  rw [State.overlay_call, buildResult_overlay]
  cases buildResult (env.after base.names) (r.call .dismiss) pageCount images with
  | mk outcome built => cases outcome <;> rfl

end

end DocumentCamera
end MeeScanner
