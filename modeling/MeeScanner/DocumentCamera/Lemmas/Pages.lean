import Mathlib.Data.Nat.Find
import MeeScanner.DocumentCamera.Lemmas.AllOrNothing

/-!
This module contains what a finished scan keeps where every write succeeds: a result has each page
in its place, a failure has exactly the pages before it, and one of the two is reported once. The
number of pages is an `Int` of the source, so it has to be one.
-/

namespace MeeScanner
namespace DocumentCamera

-- The URI names one file, with this content.
def State.Names (s : State) (env : Env) (uri : String) (file : File) : Prop :=
  (∃ path, (path, file) ∈ s.files ∧ env.fileUri path = uri)
    ∧ ∀ entry ∈ s.files, env.fileUri entry.1 = uri → entry.2 = file

structure KeepsPages (env : Env) (scan : VNDocumentCameraScan) (s : State) : Prop where
  reportsOnce : (∃ result, s.calls = [.dismiss, .onResult result, .onFinished])
    ∨ ∃ message, s.calls = [.dismiss, .onError message, .onFinished]
  reported : (∃ result, .onResult result ∈ s.calls)
    ↔ ∀ i < scan.pageCount, (scan.imageOfPageAtIndex i).Encodes
  count : ∀ result : DocumentScanResult, .onResult result ∈ s.calls →
    result.pageCount = scan.pageCount ∧ result.pages.length = scan.pageCount
  page : ∀ result : DocumentScanResult, .onResult result ∈ s.calls →
    ∀ i < scan.pageCount, ∃ page jpegData, result.pages[i]? = some page
      ∧ (scan.imageOfPageAtIndex i).jpegRepresentation = some jpegData
      ∧ s.Names env page.imageUri (.jpeg jpegData)
  pdf : ∀ result : DocumentScanResult, .onResult result ∈ s.calls →
    ∃ uri, result.pdfUri = some uri
      ∧ s.Names env uri
          (.pdf (pdfPages ((List.range scan.pageCount).map scan.imageOfPageAtIndex)))
  failed : ∀ k < scan.pageCount, (∀ i < k, (scan.imageOfPageAtIndex i).Encodes) →
    ¬ (scan.imageOfPageAtIndex k).Encodes →
      (∃ message, .onError message ∈ s.calls)
        ∧ (s.files.length = k ∧ ∀ file ∈ s.files, ∃ jpegData, file.2 = .jpeg jpegData)
        ∧ s.pdfContexts = []

section

variable {env : Env} {s : State} {images : List UIImage}

theorem pageFile_eq_some_iff (hcreates : ∀ path, env.createsFile path = true) {k : Nat}
    {image : UIImage} {file : String × File}
    : pageFile env k image = some file
        ↔
      ∃ jpegData, image.jpegRepresentation = some jpegData
        ∧ file = (env.temporaryFilePath k "jpg", .jpeg jpegData) := by
  simp only [pageFile, hcreates, ↓reduceIte, Option.map_eq_some_iff, eq_comm (a := file)]

theorem length_pageFiles (hcreates : ∀ path, env.createsFile path = true)
    (hgood : ∀ image ∈ images, image.Encodes) (k : Nat)
    : (pageFiles env k images).length = images.length := by
  induction images generalizing k with
  | nil => rfl
  | cons image images ih =>
    rw [List.forall_mem_cons] at hgood
    rcases hgood.1.exists_jpeg with ⟨jpegData, hjpeg⟩
    have hfile := (pageFile_eq_some_iff hcreates (k := k)).mpr ⟨jpegData, hjpeg, rfl⟩
    rw [pageFiles, hfile, List.length_append, ih hgood.2]
    simp [Nat.add_comm]

theorem names_page (hcreates : ∀ path, env.createsFile path = true)
    (hfiles : s.files = pageFiles env 0 images ++ pdfFiles env images) {i : Nat} {image : UIImage}
    {jpegData : List UInt8} (himage : images[i]? = some image)
    (hjpeg : image.jpegRepresentation = some jpegData)
    : s.Names env (env.fileUri (env.temporaryFilePath i "jpg")) (.jpeg jpegData) := by
  unfold State.Names
  rw [hfiles]
  constructor
  . refine ⟨env.temporaryFilePath i "jpg", List.mem_append_left _ ?_, rfl⟩
    rw [mem_pageFiles_iff]
    refine ⟨i, image, himage, ?_⟩
    rw [pageFile_eq_some_iff hcreates]
    exact ⟨jpegData, hjpeg, by rw [Nat.zero_add]⟩
  . intro entry hentry huri
    rw [List.mem_append] at hentry
    rcases hentry with hentry | hentry
    . rw [mem_pageFiles_iff] at hentry
      rcases hentry with ⟨j, other, hother, hfile⟩
      rw [pageFile_eq_some_iff hcreates] at hfile
      rcases hfile with ⟨otherData, hdata, rfl⟩
      have hij := pageUri_inj huri
      rw [Nat.zero_add] at hij
      rw [hij, himage] at hother
      injection hother with hother
      rw [← hother, hjpeg] at hdata
      injection hdata with hdata
      rw [hdata]
    . unfold pdfFiles at hentry
      split at hentry
      . rw [List.mem_singleton] at hentry
        rw [hentry] at huri
        exact absurd huri.symm (pageUri_ne_pdfUri env i images)
      . contradiction

theorem names_pdf (hopens : ∀ path, env.opensPdf path = true)
    (hfiles : s.files = pageFiles env 0 images ++ pdfFiles env images)
    : s.Names env (env.fileUri (pdfPath env images)) (.pdf (pdfPages images)) := by
  have hpdf : pdfFiles env images = [(pdfPath env images, .pdf (pdfPages images))] := by
    rw [pdfFiles, if_pos (hopens _)]
  unfold State.Names
  rw [hfiles, hpdf]
  constructor
  . refine ⟨pdfPath env images, ?_, rfl⟩
    apply List.mem_append_right
    apply List.mem_singleton_self
  . intro entry hentry huri
    rw [List.mem_append, List.mem_singleton] at hentry
    rcases hentry with hentry | hentry
    . rcases mem_pageFiles hentry with ⟨j, _, hpath, _⟩
      rw [hpath] at huri
      exact absurd huri (pageUri_ne_pdfUri env _ images)
    . rw [hentry]

theorem mem_onResult {r r' : DocumentScanResult}
    (h : Call.onResult r ∈ [.dismiss, .onResult r', .onFinished])
    : r = r' := by
  simpa using h

theorem count_eq {scan : VNDocumentCameraScan} (hpages : scan.pageCount < 2 ^ 31)
    : scan.count = scan.pageCount := by
  unfold VNDocumentCameraScan.count toInt32
  apply Int.bmod_eq_of_le <;> omega

theorem images_eq {scan : VNDocumentCameraScan} (hpages : scan.pageCount < 2 ^ 31)
    : scan.images = (List.range scan.pageCount).map scan.imageOfPageAtIndex := by
  rw [VNDocumentCameraScan.images, count_eq hpages, Int.toNat_natCast]

end

section

variable {env : Env} {scan : VNDocumentCameraScan}

theorem keepsPages_ok (hcreates : ∀ path, env.createsFile path = true)
    (hopens : ∀ path, env.opensPdf path = true)
    (hgood : ∀ i < scan.pageCount, (scan.imageOfPageAtIndex i).Encodes)
    : KeepsPages env scan
        (finishWith env scan.pageCount
          ((List.range scan.pageCount).map scan.imageOfPageAtIndex)) := by
  have himages : ∀ image ∈ (List.range scan.pageCount).map scan.imageOfPageAtIndex,
      image.Encodes := by
    simpa using hgood
  rw [finishWith_ok himages]
  constructor
  . exact Or.inl ⟨_, rfl⟩
  . simpa using hgood
  . intro r hr
    cases mem_onResult hr
    simp [result, pageUris_eq]
  . intro r hr i hi
    cases mem_onResult hr
    rcases (hgood i hi).exists_jpeg with ⟨jpegData, hjpeg⟩
    refine ⟨⟨env.fileUri (env.temporaryFilePath i "jpg")⟩, jpegData, ?_, hjpeg, ?_⟩
    . simp [result, pageUris_eq, hi]
    . apply names_page hcreates rfl _ hjpeg
      simp [hi]
  . intro r hr
    cases mem_onResult hr
    exact ⟨_, rfl, names_pdf hopens rfl⟩
  . intro k hk _ hbad
    exact absurd (hgood k hk) hbad

theorem range_split {k n : Nat} (hk : k < n)
    : ∃ rest, List.range n = List.range k ++ k :: rest := by
  rcases Nat.exists_eq_add_of_lt hk with ⟨m, rfl⟩
  refine ⟨(List.range m).map fun i => k + (i + 1), ?_⟩
  rw [Nat.add_assoc, List.range_add, List.range_succ_eq_map]
  simp [Function.comp_def]

theorem keepsPages_error (hcreates : ∀ path, env.createsFile path = true) {k : Nat}
    (hk : k < scan.pageCount) (hgood : ∀ i < k, (scan.imageOfPageAtIndex i).Encodes)
    (hbad : ¬ (scan.imageOfPageAtIndex k).Encodes)
    : KeepsPages env scan
        (finishWith env scan.pageCount
          ((List.range scan.pageCount).map scan.imageOfPageAtIndex)) := by
  have himages : ∀ image ∈ (List.range k).map scan.imageOfPageAtIndex, image.Encodes := by
    simpa using hgood
  have hall : ¬ ∀ i < scan.pageCount, (scan.imageOfPageAtIndex i).Encodes := by
    intro h
    exact hbad (h k hk)
  rcases range_split hk with ⟨rest, hrange⟩
  rw [hrange, List.map_append, List.map_cons, finishWith_error himages hbad]
  constructor
  . exact Or.inr ⟨_, rfl⟩
  . simpa using hall
  . intro r hr
    simp at hr
  . intro r hr
    simp at hr
  . intro r hr
    simp at hr
  . intro j hj hbefore hfails
    have hkj : j = k := by
      rcases Nat.lt_trichotomy j k with hlt | heq | hlt
      . exact absurd (hgood j hlt) hfails
      . exact heq
      . exact absurd (hbefore k hlt) hbad
    subst hkj
    refine ⟨⟨"Unable to encode scanned page.", by simp⟩, ⟨?_, ?_⟩, rfl⟩
    . simp [length_pageFiles hcreates himages]
    . intro file hfile
      rw [mem_pageFiles_iff] at hfile
      rcases hfile with ⟨i, image, _, hfile⟩
      rw [pageFile_eq_some_iff hcreates] at hfile
      rcases hfile with ⟨jpegData, _, rfl⟩
      exact ⟨jpegData, rfl⟩

end

theorem keepsPages_of_int (env : Env) (scan : VNDocumentCameraScan)
    (hpages : scan.pageCount < 2 ^ 31) (hcreates : ∀ path, env.createsFile path = true)
    (hopens : ∀ path, env.opensPdf path = true)
    : KeepsPages env scan (documentCameraViewController env scan) := by
  unfold documentCameraViewController
  rw [count_eq hpages, images_eq hpages]
  by_cases hgood : ∀ i < scan.pageCount, (scan.imageOfPageAtIndex i).Encodes
  . apply keepsPages_ok hcreates hopens hgood
  . have hfails : ∃ k, k < scan.pageCount ∧ ¬ (scan.imageOfPageAtIndex k).Encodes := by
      simpa using hgood
    have hfirst := Nat.find_spec hfails
    apply keepsPages_error hcreates hfirst.1 _ hfirst.2
    intro i hi
    by_contra hbad
    exact Nat.find_min hfails hi ⟨Nat.lt_trans hi hfirst.1, hbad⟩

def emptyDevice : Env := { fullDevice with createsFile := fun _ => true }

def secondFails : VNDocumentCameraScan :=
  ⟨2, fun index => ⟨index, 0, 0, if index = 0 then some [0xff, 0xd8] else none⟩⟩

theorem secondFails_keepsPages
    : KeepsPages emptyDevice secondFails
        (documentCameraViewController emptyDevice secondFails) := by
  apply keepsPages_of_int
  . decide
  . intro _
    rfl
  . intro _
    rfl

def tooManyPages : VNDocumentCameraScan := ⟨2 ^ 31, fun index => ⟨index, 0, 0, some [0xff, 0xd8]⟩⟩

theorem tooManyPages_not_kept
    : ¬ KeepsPages emptyDevice tooManyPages
        (documentCameraViewController emptyDevice tooManyPages) := by
  intro h
  have hcount : tooManyPages.count = -2 ^ 31 := by
    decide
  have hrun : documentCameraViewController emptyDevice tooManyPages
      = finishWith emptyDevice (-2 ^ 31) [] := by
    unfold documentCameraViewController VNDocumentCameraScan.images
    rw [hcount]
    rfl
  rw [hrun, finishWith_ok (by simp)] at h
  have := (h.count (result emptyDevice (-2 ^ 31) []) (by simp)).1
  exact absurd this (by decide)

end DocumentCamera
end MeeScanner
