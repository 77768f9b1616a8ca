import MeeScanner.DocumentCamera.Lemmas.Run

/-!
This module contains the outcome of a finished scan. The two Booleans that report a failed write are
not read and the pages saved before an error are not removed, so the outcome is all or nothing
only where everything was written, or nothing before the first page that does not encode.
-/

namespace MeeScanner
namespace DocumentCamera

def State.Holds (s : State) (env : Env) (uri : String) : Prop :=
  ∃ file ∈ s.files, env.fileUri file.1 = uri

def State.AllReported (s : State) (env : Env) : Prop :=
  ∃ result uri, .onResult result ∈ s.calls
    ∧ (∀ page ∈ result.pages, s.Holds env page.imageUri)
    ∧ result.pdfUri = some uri ∧ s.Holds env uri

def State.NothingLeft (s : State) : Prop := (∃ message, .onError message ∈ s.calls) ∧ s.files = []

def AllOrNothing (env : Env) (scan : VNDocumentCameraScan) : Prop :=
  (documentCameraViewController env scan).AllReported env
    ∨ (documentCameraViewController env scan).NothingLeft

def AllWritten (env : Env) (images : List UIImage) : Prop :=
  (∀ image ∈ images, image.Encodes)
    ∧ (∀ i < images.length, env.createsFile (env.temporaryFilePath i "jpg") = true)
    ∧ env.opensPdf (env.temporaryFilePath images.length "pdf") = true

-- Some page does not encode and no write before the first such page succeeds.
def NoneWritten (env : Env) (images : List UIImage) : Prop :=
  (∃ image ∈ images, ¬ image.Encodes)
    ∧ ∀ i < (images.takeWhile (·.Encodes)).length,
        env.createsFile (env.temporaryFilePath i "jpg") = false

section

variable {env : Env} {s : State} {images good rest : List UIImage} {bad : UIImage}

theorem holds_page (hgood : ∀ image ∈ images, image.Encodes)
    (hfiles : s.files = pageFiles env 0 images ++ pdfFiles env images) {i : Nat}
    (hi : i < images.length)
    : s.Holds env (env.fileUri (env.temporaryFilePath i "jpg"))
        ↔
      env.createsFile (env.temporaryFilePath i "jpg") = true := by
  unfold State.Holds
  rw [hfiles]
  constructor
  . intro h
    rcases h with ⟨file, hmem, huri⟩
    rw [List.mem_append] at hmem
    rcases hmem with hmem | hmem
    . rcases mem_pageFiles hmem with ⟨j, _, hpath, hcreates⟩
      rw [hpath] at huri hcreates
      rw [← env.fileUri_injective _ _ _ _ huri]
      exact hcreates
    . unfold pdfFiles at hmem
      split at hmem
      . rw [List.mem_singleton] at hmem
        rw [hmem] at huri
        exact absurd huri.symm (pageUri_ne_pdfUri env i images)
      . contradiction
  . intro hcreates
    rw [← Nat.zero_add i] at hcreates
    rcases exists_mem_pageFiles hgood hi hcreates with ⟨file, hmem, hpath⟩
    refine ⟨file, List.mem_append_left _ hmem, ?_⟩
    rw [hpath, Nat.zero_add]

theorem holds_pdf (hfiles : s.files = pageFiles env 0 images ++ pdfFiles env images)
    : s.Holds env (env.fileUri (pdfPath env images))
        ↔
      env.opensPdf (pdfPath env images) = true := by
  unfold State.Holds
  rw [hfiles]
  constructor
  . intro h
    rcases h with ⟨file, hmem, huri⟩
    rw [List.mem_append] at hmem
    rcases hmem with hmem | hmem
    . rcases mem_pageFiles hmem with ⟨j, _, hpath, _⟩
      rw [hpath] at huri
      exact absurd huri (pageUri_ne_pdfUri env _ images)
    . unfold pdfFiles at hmem
      split at hmem
      . next hopens => exact hopens
      . contradiction
  . intro hopens
    refine ⟨(pdfPath env images, .pdf (pdfPages images)), ?_, rfl⟩
    apply List.mem_append_right
    simp [pdfFiles, hopens]

theorem allReported_ok (hgood : ∀ image ∈ images, image.Encodes) (pageCount : Int)
    : (finishWith env pageCount images).AllReported env
        ↔
      (∀ i < images.length, env.createsFile (env.temporaryFilePath i "jpg") = true)
        ∧ env.opensPdf (env.temporaryFilePath images.length "pdf") = true := by
  rw [finishWith_ok hgood]
  unfold State.AllReported
  simp only [List.mem_cons, reduceCtorEq, Call.onResult.injEq, List.not_mem_nil, or_false,
    false_or]
  constructor
  . intro h
    rcases h with ⟨_, uri, rfl, hpages, hpdf, huri⟩
    constructor
    . intro i hi
      have hmem : ⟨env.fileUri (env.temporaryFilePath i "jpg")⟩
          ∈ (result env pageCount images).pages := by
        simp only [result, pageUris_eq, Nat.zero_add, List.mem_map, List.mem_range]
        exact ⟨i, hi, rfl⟩
      exact (holds_page hgood rfl hi).mp (hpages _ hmem)
    . injection hpdf with hpdf
      rw [← hpdf] at huri
      exact (holds_pdf rfl).mp huri
  . intro h
    rcases h with ⟨hcreates, hopens⟩
    refine ⟨result env pageCount images, _, rfl, ?_, rfl, (holds_pdf rfl).mpr hopens⟩
    intro page hpage
    simp only [result, pageUris_eq, Nat.zero_add, List.mem_map, List.mem_range] at hpage
    rcases hpage with ⟨i, hi, rfl⟩
    exact (holds_page hgood rfl hi).mpr (hcreates i hi)

theorem not_nothingLeft_ok (env : Env) (hgood : ∀ image ∈ images, image.Encodes) (pageCount : Int)
    : ¬ (finishWith env pageCount images).NothingLeft := by
  rw [finishWith_ok hgood]
  simp [State.NothingLeft]

theorem pageFiles_eq_nil_iff (hgood : ∀ image ∈ good, image.Encodes)
    : pageFiles env 0 good = []
        ↔
      ∀ i < good.length, env.createsFile (env.temporaryFilePath i "jpg") = false := by
  constructor
  . intro hnil i hi
    by_contra hcreates
    simp only [Bool.not_eq_false] at hcreates
    rw [← Nat.zero_add i] at hcreates
    rcases exists_mem_pageFiles hgood hi hcreates with ⟨file, hmem, _⟩
    rw [hnil] at hmem
    contradiction
  . intro hnone
    rw [List.eq_nil_iff_forall_not_mem]
    intro file hmem
    rcases mem_pageFiles hmem with ⟨i, hi, hpath, hcreates⟩
    rw [hpath, Nat.zero_add, hnone i hi] at hcreates
    contradiction

theorem nothingLeft_error (hgood : ∀ image ∈ good, image.Encodes) (hbad : ¬ bad.Encodes)
    (pageCount : Int)
    : (finishWith env pageCount (good ++ bad :: rest)).NothingLeft
        ↔
      ∀ i < good.length, env.createsFile (env.temporaryFilePath i "jpg") = false := by
  rw [finishWith_error hgood hbad, ← pageFiles_eq_nil_iff hgood]
  simp [State.NothingLeft]

theorem not_allReported_error (env : Env) (hgood : ∀ image ∈ good, image.Encodes)
    (hbad : ¬ bad.Encodes) (rest : List UIImage) (pageCount : Int)
    : ¬ (finishWith env pageCount (good ++ bad :: rest)).AllReported env := by
  rw [finishWith_error hgood hbad]
  simp [State.AllReported]

theorem takeWhile_encodes (hgood : ∀ image ∈ good, image.Encodes) (hbad : ¬ bad.Encodes)
    : (good ++ bad :: rest).takeWhile (·.Encodes) = good := by
  rw [List.takeWhile_append_of_pos (by simpa using hgood)]
  simp [hbad]

end

theorem allOrNothing_iff (env : Env) (scan : VNDocumentCameraScan)
    : AllOrNothing env scan ↔ AllWritten env scan.images ∨ NoneWritten env scan.images := by
  unfold AllOrNothing documentCameraViewController
  rcases first_failure scan.images with hgood | ⟨good, bad, rest, hsplit, hgood, hbad⟩
  . rw [allReported_ok hgood]
    have hnothing := not_nothingLeft_ok env hgood scan.count
    have hnone : ¬ NoneWritten env scan.images := by
      intro h
      rcases h.1 with ⟨image, hmem, hbad⟩
      exact hbad (hgood image hmem)
    simp only [hnothing, hnone, or_false]
    constructor
    . intro h
      exact ⟨hgood, h⟩
    . intro h
      exact h.2
  . rw [hsplit, nothingLeft_error hgood hbad]
    have hall := not_allReported_error env hgood hbad rest scan.count
    have hwritten : ¬ AllWritten env (good ++ bad :: rest) := by
      intro h
      apply hbad
      apply h.1
      simp
    have hsome : ∃ image ∈ good ++ bad :: rest, ¬ image.Encodes := ⟨bad, by simp, hbad⟩
    simp only [hall, hwritten, false_or, NoneWritten, hsome, true_and,
      takeWhile_encodes hgood hbad]

def fullDevice : Env :=
  {
    uuidString := fun k => String.ofList (List.replicate k '0')
    temporaryDirectory := "/tmp/"
    createsFile := fun _ => false
    opensPdf := fun _ => true
    absoluteString := fun path => some ("file://" ++ path)
    uuidString_injective := by
      intro k k' h
      have hlength := congrArg (·.toList.length) h
      simpa using hlength
    fileUri_injective := by
      intro k k' extension extension' h
      simpa [Device.fileUri, String.append_right_inj] using h
  }

def onePage : VNDocumentCameraScan := ⟨1, fun index => ⟨index, 0, 0, some [0xff, 0xd8]⟩⟩

theorem fullDevice_reports_missing_page : ¬ AllOrNothing fullDevice onePage := by
  have hrun : documentCameraViewController fullDevice onePage
      = {
        files := [("/tmp/scan-0.pdf", .pdf [⟨⟨0, 0, 0, some [0xff, 0xd8]⟩, 0, 0⟩])]
        names := 2
        pdfContexts := ["/tmp/scan-0.pdf"]
        calls := [
          .dismiss,
          .onResult ⟨1, some "file:///tmp/scan-0.pdf", [⟨"file:///tmp/scan-.jpg"⟩]⟩,
          .onFinished
        ]
      } := by
    decide +kernel
  unfold AllOrNothing
  rw [hrun]
  simp [State.AllReported, State.NothingLeft, State.Holds, fullDevice, Device.fileUri]

end DocumentCamera
end MeeScanner
