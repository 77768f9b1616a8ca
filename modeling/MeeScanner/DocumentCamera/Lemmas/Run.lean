import MeeScanner.DocumentCamera.Impl

/-!
This module contains what `documentCameraViewController` does: the names it generates are distinct,
so each file is written once, and the callback ends in one of two states.
-/

namespace MeeScanner
namespace DocumentCamera

def UIImage.Encodes (image : UIImage) : Prop := image.jpegRepresentation ≠ none

instance : DecidablePred UIImage.Encodes := fun image =>
  inferInstanceAs (Decidable (image.jpegRepresentation ≠ none))

theorem temporaryFilePath_inj (env : Env) {k k' : Nat} {extension extension' : String}
    (hlength : extension.length = extension'.length)
    (h : env.temporaryFilePath k extension = env.temporaryFilePath k' extension')
    : k = k' ∧ extension = extension' := by
  simp only [Device.temporaryFilePath, String.append_right_inj] at h
  have hlist := congrArg String.toList h
  simp only [String.toList_append] at hlist
  rcases List.append_inj' hlist (by simpa [String.length_toList] using hlength)
    with ⟨hname, hextension⟩
  have hname := List.append_cancel_right hname
  have hname := List.append_cancel_left hname
  constructor
  . apply env.uuidString_injective
    apply String.toList_injective hname
  . apply String.toList_injective hextension

section

variable (env : Env)

def pageFile (k : Nat) (image : UIImage) : Option (String × File) :=
  let pagePath := env.temporaryFilePath k "jpg"
  if env.createsFile pagePath then
    image.jpegRepresentation.map fun jpegData => (pagePath, .jpeg jpegData)
  else
    none

def pageFiles (k : Nat) : List UIImage → List (String × File)
  | [] => []
  | image :: images => (pageFile env k image).toList ++ pageFiles (k + 1) images

def pageUris (k : Nat) : List UIImage → List ScannedDocumentPage
  | [] => []
  | _ :: images => ⟨env.fileUri (env.temporaryFilePath k "jpg")⟩ :: pageUris (k + 1) images

def pdfPath (images : List UIImage) : String := env.temporaryFilePath images.length "pdf"

def pdfPages (images : List UIImage) : List PdfPage :=
  images.map fun image => ⟨image, image.width, image.height⟩

def pdfFiles (images : List UIImage) : List (String × File) :=
  if env.opensPdf (pdfPath env images) then
    [(pdfPath env images, .pdf (pdfPages images))]
  else
    []

def result (pageCount : Int) (images : List UIImage) : DocumentScanResult :=
  {
    pageCount := pageCount
    pdfUri := some (env.fileUri (pdfPath env images))
    pages := pageUris env 0 images
  }

def State.save (s : State) (images : List UIImage) : State :=
  {
    s with
    files := s.files ++ pageFiles env s.names images
    names := s.names + images.length
  }

-- Every file so far is a page under an earlier name.
def Named (s : State) : Prop :=
  ∀ file ∈ s.files, ∃ k, k < s.names ∧ file.1 = env.temporaryFilePath k "jpg"

end

section

variable {env : Env} {s : State} {images good rest : List UIImage}

theorem UIImage.Encodes.exists_jpeg {image : UIImage} (h : image.Encodes)
    : ∃ jpegData, image.jpegRepresentation = some jpegData := by
  unfold UIImage.Encodes at h
  rw [Option.ne_none_iff_exists'] at h
  exact h

theorem pageUri_inj {i j : Nat}
    (h : env.fileUri (env.temporaryFilePath i "jpg") = env.fileUri (env.temporaryFilePath j "jpg"))
    : i = j := by
  have hpath := env.fileUri_injective _ _ _ _ h
  exact (temporaryFilePath_inj env rfl hpath).1

theorem pageUri_ne_pdfUri (env : Env) (i : Nat) (images : List UIImage)
    : env.fileUri (env.temporaryFilePath i "jpg") ≠ env.fileUri (pdfPath env images) := by
  intro h
  rw [pdfPath] at h
  have hpath := env.fileUri_injective _ _ _ _ h
  have := (temporaryFilePath_inj env (by decide) hpath).2
  exact absurd this (by decide)

theorem save_nil : s.save env [] = s := by
  simp [State.save, pageFiles]

theorem save_cons (image : UIImage)
    : (s.save env [image]).save env images = s.save env (image :: images) := by
  simp only [State.save, pageFiles, List.append_nil, List.append_assoc, List.length_cons,
    List.length_nil, Nat.zero_add, Nat.add_assoc, Nat.add_comm 1]

theorem filter_new {path : String} (hnew : ∀ other ∈ s.files, other.1 ≠ path)
    : s.files.filter (·.1 ≠ path) = s.files := by
  rw [List.filter_eq_self]
  intro other hother
  simpa using hnew other hother

theorem Named.new (h : Named env s) {other : String × File} (hother : other ∈ s.files) {k : Nat}
    (hk : s.names ≤ k) : other.1 ≠ env.temporaryFilePath k "jpg" := by
  rcases h other hother with ⟨k', hlt, hpath⟩
  rw [hpath]
  intro hcontra
  have := (temporaryFilePath_inj env rfl hcontra).1
  omega

theorem createFileAtPath_new (h : Named env s) {image : UIImage} {jpegData : List UInt8}
    (hjpeg : image.jpegRepresentation = some jpegData)
    : s.named.createFileAtPath env (env.temporaryFilePath s.names "jpg") jpegData
        =
      s.save env [image] := by
  unfold State.createFileAtPath
  split
  . next hcreates =>
    have hfilter := filter_new (s := s) fun other hother => h.new hother (Nat.le_refl _)
    simp only [State.write, State.named, hfilter]
    simp [State.save, pageFiles, pageFile, hcreates, hjpeg]
  . next hcreates =>
    simp [State.save, State.named, pageFiles, pageFile, hcreates]

theorem mem_pageFile {k : Nat} {image : UIImage} {file : String × File}
    (hmem : file ∈ (pageFile env k image).toList)
    : file.1 = env.temporaryFilePath k "jpg" ∧ env.createsFile file.1 = true := by
  simp only [pageFile, Option.mem_toList] at hmem
  split at hmem
  . next hcreates =>
    simp only [Option.map_eq_some_iff] at hmem
    rcases hmem with ⟨jpegData, _, rfl⟩
    exact ⟨rfl, hcreates⟩
  . contradiction

theorem Named.save (h : Named env s) (image : UIImage) : Named env (s.save env [image]) := by
  intro file hfile
  simp only [State.save, pageFiles, List.append_nil, List.mem_append] at hfile
  simp only [State.save, List.length_singleton]
  rcases hfile with hfile | hfile
  . rcases h file hfile with ⟨k, hlt, hpath⟩
    exact ⟨k, by omega, hpath⟩
  . exact ⟨s.names, by omega, (mem_pageFile hfile).1⟩

-- The loop over images that encode, whatever the writes return.
theorem savePages_append (h : Named env s) (hgood : ∀ image ∈ good, image.Encodes)
    (savedPages : List ScannedDocumentPage)
    : savePages env savedPages s (good ++ rest)
        =
      savePages env (savedPages ++ pageUris env s.names good) (s.save env good) rest := by
  induction good generalizing s savedPages with
  | nil => simp [save_nil, pageUris]
  | cons image good ih =>
    rcases (hgood image List.mem_cons_self).exists_jpeg with ⟨jpegData, hjpeg⟩
    simp only [List.cons_append, savePages, hjpeg]
    rw [createFileAtPath_new h hjpeg, ih (h.save image), save_cons]
    . simp [pageUris, State.save]
    . intro other hother
      apply hgood other (List.mem_cons_of_mem _ hother)

theorem foldl_drawPage (images : List UIImage)
    : images.foldl State.drawPage s
        =
      {
        s with
        pdfContext := s.pdfContext.map fun context =>
          (context.1, context.2 ++ images.map fun image => ⟨image, image.width, image.height⟩)
      } := by
  induction images generalizing s with
  | nil =>
    cases s with
    | mk files names pdfContext => cases pdfContext <;> simp
  | cons image images ih =>
    rw [List.foldl_cons, ih]
    simp [State.drawPage, Option.map_map, Function.comp_def]

theorem drawn_closed {path : String} (hcontext : s.pdfContext = none)
    (hopens : env.opensPdf path = false)
    : (images.foldl State.drawPage (s.beginPDFContextToFile env path)).endPDFContext = s := by
  rw [foldl_drawPage]
  simp only [State.beginPDFContextToFile, hopens, Bool.false_eq_true, ↓reduceIte, hcontext,
    Option.map_none, State.endPDFContext]
  rw [← hcontext]

theorem drawn_opened {path : String} (hcontext : s.pdfContext = none)
    (hopens : env.opensPdf path = true) (hnew : ∀ other ∈ s.files, other.1 ≠ path)
    : (images.foldl State.drawPage (s.beginPDFContextToFile env path)).endPDFContext
        =
      {
        s with
        files := s.files
          ++ [(path, .pdf (images.map fun image => ⟨image, image.width, image.height⟩))]
        pdfContexts := s.pdfContexts ++ [path]
      } := by
  unfold State.beginPDFContextToFile
  rw [if_pos hopens, foldl_drawPage]
  simp only [Option.map_some, List.nil_append, State.endPDFContext, State.write, filter_new hnew,
    hcontext]

theorem first_failure (images : List UIImage)
    : (∀ image ∈ images, image.Encodes)
        ∨ ∃ good bad rest, images = good ++ bad :: rest ∧ (∀ image ∈ good, image.Encodes)
            ∧ ¬ bad.Encodes := by
  induction images with
  | nil =>
    apply Or.inl
    simp
  | cons image images ih =>
    by_cases hencodes : image.Encodes
    . rcases ih with hall | ⟨good, bad, rest, hsplit, hgood, hbad⟩
      . apply Or.inl
        rw [List.forall_mem_cons]
        exact ⟨hencodes, hall⟩
      . refine Or.inr ⟨image :: good, bad, rest, ?_, ?_, hbad⟩
        . rw [hsplit, List.cons_append]
        . rw [List.forall_mem_cons]
          exact ⟨hencodes, hgood⟩
    . refine Or.inr ⟨[], image, images, rfl, ?_, hencodes⟩
      simp

theorem named_dismissed (env : Env) : Named env (State.call {} .dismiss) := by
  intro file hfile
  contradiction

theorem mem_pageFiles_iff {k : Nat} {file : String × File}
    : file ∈ pageFiles env k images
        ↔
      ∃ i image, images[i]? = some image ∧ pageFile env (k + i) image = some file := by
  induction images generalizing k with
  | nil => simp [pageFiles]
  | cons image images ih =>
    rw [pageFiles, List.mem_append, ih, Option.mem_toList]
    constructor
    . intro h
      rcases h with h | ⟨i, other, hother, hfile⟩
      . exact ⟨0, image, rfl, h⟩
      . refine ⟨i + 1, other, hother, ?_⟩
        rw [← hfile]
        congr 1
        omega
    . intro h
      rcases h with ⟨i, other, hother, hfile⟩
      cases i with
      | zero =>
        injection hother with hother
        rw [hother]
        exact Or.inl hfile
      | succ i =>
        refine Or.inr ⟨i, other, hother, ?_⟩
        rw [← hfile]
        congr 1
        omega

theorem mem_pageFiles {k : Nat} {file : String × File} (hmem : file ∈ pageFiles env k images)
    : ∃ i, i < images.length ∧ file.1 = env.temporaryFilePath (k + i) "jpg"
        ∧ env.createsFile file.1 = true := by
  rcases mem_pageFiles_iff.mp hmem with ⟨i, image, himage, hfile⟩
  have ⟨hi, _⟩ := List.getElem?_eq_some_iff.mp himage
  exact ⟨i, hi, mem_pageFile (by rw [hfile]; apply List.mem_cons_self)⟩

theorem exists_mem_pageFiles (hgood : ∀ image ∈ images, image.Encodes) {k i : Nat}
    (hi : i < images.length)
    (hcreates : env.createsFile (env.temporaryFilePath (k + i) "jpg") = true)
    : ∃ file ∈ pageFiles env k images, file.1 = env.temporaryFilePath (k + i) "jpg" := by
  rcases (hgood images[i] (List.getElem_mem hi)).exists_jpeg with ⟨jpegData, hjpeg⟩
  refine ⟨(env.temporaryFilePath (k + i) "jpg", .jpeg jpegData), ?_, rfl⟩
  rw [mem_pageFiles_iff]
  refine ⟨i, images[i], List.getElem?_eq_getElem hi, ?_⟩
  simp [pageFile, hcreates, hjpeg]

theorem pageUris_eq (k : Nat) (images : List UIImage)
    : pageUris env k images
        =
      (List.range images.length).map fun i =>
        ⟨env.fileUri (env.temporaryFilePath (k + i) "jpg")⟩ := by
  induction images generalizing k with
  | nil => rfl
  | cons image images ih =>
    rw [pageUris, ih, List.length_cons, List.range_succ_eq_map]
    simp only [List.map_cons, List.map_map, Nat.add_zero, Function.comp_def, Nat.succ_eq_add_one]
    congr 1
    apply List.map_congr_left
    intro i _
    rw [Nat.add_assoc, Nat.add_comm 1]

end

section

variable {env : Env} {s : State} {images : List UIImage}

theorem pdfPath_new : ∀ other ∈ pageFiles env 0 images, other.1 ≠ pdfPath env images := by
  intro other hother
  rcases mem_pageFiles hother with ⟨i, _, hpath, _⟩
  rw [hpath]
  intro hcontra
  exact pageUri_ne_pdfUri env _ images (congrArg env.fileUri hcontra)

theorem createPdfFromScan_eq (hcontext : s.pdfContext = none)
    (hfiles : s.files = pageFiles env 0 images)
    : createPdfFromScan env s images (pdfPath env images)
        =
      {
        s with
        files := s.files ++ pdfFiles env images
        pdfContexts := s.pdfContexts
          ++ if env.opensPdf (pdfPath env images) then [pdfPath env images] else []
      } := by
  unfold createPdfFromScan pdfFiles
  cases hopens : env.opensPdf (pdfPath env images) with
  | false =>
    rw [drawn_closed hcontext hopens]
    simp
  | true =>
    rw [drawn_opened hcontext hopens]
    . simp [pdfPages]
    . rw [hfiles]
      exact pdfPath_new

theorem finishWith_ok (hgood : ∀ image ∈ images, image.Encodes) (pageCount : Int)
    : finishWith env pageCount images
        =
      {
        files := pageFiles env 0 images ++ pdfFiles env images
        names := images.length + 1
        pdfContexts := if env.opensPdf (pdfPath env images) then [pdfPath env images] else []
        calls := [.dismiss, .onResult (result env pageCount images), .onFinished]
      } := by
  have hpages : savePages env [] (State.call {} .dismiss) (images ++ []) = _ :=
    savePages_append (named_dismissed env) hgood []
  simp only [List.append_nil, savePages, List.nil_append] at hpages
  have hnames : (State.save env (State.call {} .dismiss) images).names = images.length := by
    simp [State.save, State.call]
  have hfiles : (State.save env (State.call {} .dismiss) images).named.files
      = pageFiles env 0 images := by
    simp [State.save, State.call, State.named]
  have hpdf := createPdfFromScan_eq rfl hfiles
  unfold finishWith buildResult
  simp only [hpages, hnames]
  change State.call (State.call (createPdfFromScan env _ images (pdfPath env images)) _) _ = _
  rw [hpdf]
  simp [State.save, State.call, State.named, result, pdfPath]

theorem finishWith_error {good rest : List UIImage} {bad : UIImage}
    (hgood : ∀ image ∈ good, image.Encodes) (hbad : ¬ bad.Encodes) (pageCount : Int)
    : finishWith env pageCount (good ++ bad :: rest)
        =
      {
        files := pageFiles env 0 good
        names := good.length + 1
        calls := [.dismiss, .onError "Unable to encode scanned page.", .onFinished]
      } := by
  have hjpeg : bad.jpegRepresentation = none := by simpa [UIImage.Encodes] using hbad
  unfold finishWith buildResult
  simp only [savePages_append (named_dismissed env) hgood [], savePages, hjpeg]
  simp [State.save, State.call, State.named]

end

end DocumentCamera
end MeeScanner
