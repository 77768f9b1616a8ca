import Mathlib.Data.List.Nodup
import MeeScanner.DocumentCamera.Lemmas.Pages
import MeeScanner.DocumentLauncher.Lemmas.Step
import MeeScanner.ScannedFiles.Lemmas.Overlay

/-!
This module contains what a step of the launcher adds to the scans and to the files. Every path of a
callback, and every URI it reports, is made of a name that was generated in it.
-/

namespace MeeScanner

def ScanResult.uris : ScanResult → List String
  | .documentResult _ pdfUri pages => pages.map (·.imageUri) ++ pdfUri.toList
  | _ => []

namespace DocumentCamera

def Call.scan? : Call → Option ScanResult
  | .onResult result => some (.documentResult result.pageCount result.pdfUri result.pages)
  | _ => none

def State.scans (s : State) : List ScanResult := s.calls.filterMap Call.scan?

-- A path of one of the first `names` names.
def Generated (env : Env) (names : Nat) (path : String) : Prop :=
  ∃ k < names, ∃ extension : String, extension.length = 3
    ∧ path = env.temporaryFilePath k extension

structure Filed (env : Env) (s : State) : Prop where
  files : ∀ file ∈ s.files, Generated env s.names file.1
  uris : ∀ uri ∈ s.scans.flatMap ScanResult.uris,
    ∃ path, Generated env s.names path ∧ uri = env.fileUri path
  distinct : (s.scans.flatMap ScanResult.uris).Nodup

section

variable {env : Env} {images : List UIImage} {names more : Nat} {path path' : String}

theorem Generated.mono (h : Generated env names path) (hle : names ≤ more)
    : Generated env more path := by
  rcases h with ⟨k, hk, extension, hextension⟩
  exact ⟨k, by omega, extension, hextension⟩

theorem Generated.of_after (h : Generated (env.after names) more path)
    : Generated env (names + more) path := by
  rcases h with ⟨k, hk, extension, hlength, hpath⟩
  exact ⟨names + k, by omega, extension, hlength, hpath⟩

theorem Generated.fileUri_ne (h : Generated env names path)
    (h' : Generated (env.after names) more path') : env.fileUri path ≠ env.fileUri path' := by
  rcases h with ⟨k, hk, extension, hlength, rfl⟩
  rcases h' with ⟨k', _, extension', hlength', rfl⟩
  intro huri
  rw [temporaryFilePath_after] at huri
  have hpath := env.fileUri_injective _ _ _ _ huri
  have := (temporaryFilePath_inj env (hlength.trans hlength'.symm) hpath).1
  omega

theorem generated_page {i : Nat} (hi : i < names)
    : Generated env names (env.temporaryFilePath i "jpg") := by
  exact ⟨i, hi, "jpg", by decide, rfl⟩

theorem generated_pdf (env : Env) (images : List UIImage)
    : Generated env (images.length + 1) (pdfPath env images) := by
  exact ⟨images.length, by omega, "pdf", by decide, rfl⟩

theorem generated_pageFiles {file : String × File} (hmem : file ∈ pageFiles env 0 images)
    : Generated env (images.length + 1) file.1 := by
  rcases mem_pageFiles hmem with ⟨i, hi, hpath, _⟩
  rw [hpath, Nat.zero_add]
  exact generated_page (by omega)

theorem generated_pdfFiles {file : String × File} (hmem : file ∈ pdfFiles env images)
    : Generated env (images.length + 1) file.1 := by
  unfold pdfFiles at hmem
  split at hmem
  . rw [List.mem_singleton] at hmem
    rw [hmem]
    exact generated_pdf env images
  . contradiction

theorem uris_result (env : Env) (pageCount : Int) (images : List UIImage)
    : ScanResult.uris (.documentResult pageCount (some (env.fileUri (pdfPath env images)))
          (pageUris env 0 images))
        =
      ((List.range images.length).map fun i => env.fileUri (env.temporaryFilePath i "jpg"))
        ++ [env.fileUri (pdfPath env images)] := by
  simp [ScanResult.uris, pageUris_eq, Function.comp_def]

theorem nodup_uris (env : Env) (images : List UIImage)
    : (((List.range images.length).map fun i => env.fileUri (env.temporaryFilePath i "jpg"))
        ++ [env.fileUri (pdfPath env images)]).Nodup := by
  rw [List.nodup_append]
  refine ⟨?_, List.nodup_singleton _, ?_⟩
  . apply List.nodup_range.map
    intro i j huri
    exact pageUri_inj huri
  . intro uri huri pdfUri hpdfUri
    rw [List.mem_map] at huri
    rcases huri with ⟨i, _, rfl⟩
    rw [List.mem_singleton] at hpdfUri
    rw [hpdfUri]
    exact pageUri_ne_pdfUri env i images

theorem filed_documentCamera (env : Env) (scan : VNDocumentCameraScan)
    : Filed env (documentCameraViewController env scan) := by
  unfold documentCameraViewController
  rcases first_failure scan.images with hgood | ⟨good, bad, rest, hsplit, hgood, hbad⟩
  . rw [finishWith_ok hgood]
    constructor
    . intro file hfile
      rw [List.mem_append] at hfile
      rcases hfile with hfile | hfile
      . exact generated_pageFiles hfile
      . exact generated_pdfFiles hfile
    . intro uri huri
      simp only [State.scans, List.filterMap_cons, Call.scan?, result, List.filterMap_nil,
        List.flatMap_cons, uris_result, List.flatMap_nil, List.append_nil, List.mem_append,
        List.mem_map, List.mem_range, List.mem_singleton] at huri
      rcases huri with ⟨i, hi, rfl⟩ | rfl
      . exact ⟨_, generated_page (Nat.lt_succ_of_lt hi), rfl⟩
      . exact ⟨_, generated_pdf env scan.images, rfl⟩
    . simp only [State.scans, List.filterMap_cons, Call.scan?, result, List.filterMap_nil,
        List.flatMap_cons, uris_result, List.flatMap_nil, List.append_nil]
      exact nodup_uris env scan.images
  . rw [hsplit, finishWith_error hgood hbad]
    constructor
    . intro file hfile
      exact generated_pageFiles hfile
    . simp [State.scans, List.filterMap_cons, Call.scan?]
    . simp [State.scans, List.filterMap_cons, Call.scan?]

end

section

variable {env : Env} {base r : State} {uri : String} {file : File}

theorem calls_overlay : (base.overlay r).calls = r.calls := by
  rfl

theorem names_overlay : (base.overlay r).names = base.names + r.names := by
  rfl

theorem overlay_empty (base : State) (hempty : base = { files := base.files, names := base.names })
    : base.overlay {} = base := by
  rw [hempty]
  simp [State.overlay]

-- No file of a callback has the path of one that was there, none is replaced.
theorem files_overlay (hbase : ∀ file ∈ base.files, Generated env base.names file.1)
    (hr : Filed (env.after base.names) r) : (base.overlay r).files = base.files ++ r.files := by
  unfold State.overlay
  rw [List.append_cancel_right_eq, List.filter_eq_self]
  intro file hfile
  have hnew : file.1 ∉ r.files.map Prod.fst := by
    intro hmem
    rw [List.mem_map] at hmem
    rcases hmem with ⟨other, hother, hpath⟩
    exact (hbase file hfile).fileUri_ne (hr.files other hother) (by rw [hpath])
  exact decide_eq_true hnew

theorem names_stay (hbase : ∀ file ∈ base.files, Generated env base.names file.1)
    (hr : Filed (env.after base.names) r) (h : base.Names env uri file)
    : (base.overlay r).Names env uri file := by
  unfold State.Names at h ⊢
  rw [files_overlay hbase hr]
  rcases h with ⟨⟨path, hmem, rfl⟩, honly⟩
  refine ⟨⟨path, List.mem_append_left _ hmem, rfl⟩, ?_⟩
  intro entry hentry huri
  rw [List.mem_append] at hentry
  rcases hentry with hentry | hentry
  . exact honly entry hentry huri
  . exact absurd huri.symm ((hbase _ hmem).fileUri_ne (hr.files entry hentry))

theorem names_added (hbase : ∀ file ∈ base.files, Generated env base.names file.1)
    (hr : Filed (env.after base.names) r) (h : r.Names (env.after base.names) uri file)
    : (base.overlay r).Names env uri file := by
  unfold State.Names at h ⊢
  rw [files_overlay hbase hr]
  rcases h with ⟨⟨path, hmem, rfl⟩, honly⟩
  refine ⟨⟨path, List.mem_append_right _ hmem, rfl⟩, ?_⟩
  intro entry hentry huri
  rw [List.mem_append] at hentry
  rcases hentry with hentry | hentry
  . exact absurd huri ((hbase entry hentry).fileUri_ne (hr.files _ hmem))
  . exact honly entry hentry huri

end

end DocumentCamera

namespace DocumentLauncher

def Event.scans : Event → List ScanResult
  | .didFinishWithScan _ env scan => (DocumentCamera.documentCameraViewController env scan).scans
  | _ => []

section

variable {s s' : State} {e : Event}

theorem scans_perform (controller : Controller) (call : DocumentCamera.Call)
    : (State.perform controller s call).scans = s.scans ++ call.scan?.toList := by
  cases call with
  | dismiss =>
    simp only [State.perform, State.dismiss, DocumentCamera.Call.scan?, Option.toList_none,
      List.append_nil]
    split <;> rfl
  | _ =>
    simp [State.perform, State.onResult, State.onError, State.onFinished,
      DocumentCamera.Call.scan?]

theorem scans_callback {id : Nat} {calls : List DocumentCamera.Call}
    (h : s.callback id calls = some s')
    : s'.scans = s.scans ++ calls.filterMap DocumentCamera.Call.scan? := by
  unfold State.callback at h
  split at h
  . contradiction
  . next controller hfind =>
    clear hfind
    simp only [Option.ite_none_right_eq_some, Option.some.injEq] at h
    rw [← h.2]
    clear h
    induction calls generalizing s with
    | nil => simp
    | cons call calls ih =>
      rw [List.foldl_cons, ih, scans_perform]
      cases hscan : call.scan? <;> simp [hscan]

theorem scans_step (h : step s e = some s') : s'.scans = s.scans ++ e.scans := by
  cases hcaller : e.caller? with
  | some id =>
    cases e with
    | didCancel => exact scans_callback h
    | didFailWithError => exact scans_callback h
    | didFinishWithScan => exact scans_callback h
    | _ => contradiction
  | none =>
    have hquiet : s'.scans = s.scans := by
      cases Step.of_step h with
      | called _ c he =>
        rw [he] at hcaller
        contradiction
      | _ => rfl
    cases e with
    | didFinishWithScan => contradiction
    | _ =>
      rw [hquiet]
      exact (List.append_nil s.scans).symm

end

end DocumentLauncher

namespace ScannedFiles

open DocumentCamera (Env VNDocumentCameraScan documentCameraViewController)

inductive Step (env : Env) (s : State) : Event → State → Prop where
  | finished (id : Nat) (scan : VNDocumentCameraScan) (launcher : DocumentLauncher.State)
    (hscans : launcher.scans
      = s.launcher.scans ++ (documentCameraViewController (env.after s.names) scan).scans)
    : Step env s (.didFinishWithScan id scan)
        {
          launcher
          files := (s.directory.overlay (documentCameraViewController (env.after s.names) scan)).files
          names := s.names + (documentCameraViewController (env.after s.names) scan).names
        }
  | launcher (event : DocumentLauncher.Event) (launcher : DocumentLauncher.State)
    (hscans : launcher.scans = s.launcher.scans)
    : Step env s (.launcher event) { s with launcher }

section

variable {env : Env} {s s' : State} {e : Event}

theorem finishFrom_directory (env : Env) (s : State) (scan : VNDocumentCameraScan)
    : DocumentCamera.finishFrom env s.directory scan.count scan.images
        =
      s.directory.overlay (documentCameraViewController (env.after s.names) scan) := by
  have hempty : s.directory.overlay {} = s.directory := DocumentCamera.overlay_empty _ rfl
  rw [← hempty, DocumentCamera.finishFrom_overlay, DocumentCamera.finishFrom_empty, hempty]
  rfl

theorem Step.of_step (h : step env s e = some s') : Step env s e s' := by
  cases e with
  | didFinishWithScan id scan =>
    simp only [step, State.didFinishWithScan, finishFrom_directory, Option.map_eq_some_iff] at h
    rcases h with ⟨launcher, hcallback, rfl⟩
    rw [DocumentCamera.calls_overlay] at hcallback
    have hscans := DocumentLauncher.scans_callback hcallback
    rw [DocumentCamera.names_overlay]
    exact .finished id scan launcher hscans
  | launcher event =>
    cases event with
    | didFinishWithScan => contradiction
    | _ =>
      simp only [step, Option.map_eq_some_iff] at h
      rcases h with ⟨launcher, hlauncher, rfl⟩
      apply Step.launcher
      rw [DocumentLauncher.scans_step hlauncher]
      exact List.append_nil s.launcher.scans

end

end ScannedFiles
end MeeScanner
