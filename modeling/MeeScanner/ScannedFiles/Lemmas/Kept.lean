import MeeScanner.ScannedFiles.Lemmas.Step

/-!
This module contains what is left of the scans of a session: no callback touches the files of the
ones before it, no URI is reported twice, and where every write succeeds each reported URI names the
file of its own page until the end.
-/

open Transition

namespace MeeScanner
namespace ScannedFiles

open DocumentCamera (Env File Filed Generated VNDocumentCameraScan documentCameraViewController
  filed_documentCamera files_overlay names_added names_stay pdfPages)

namespace State

def uris (s : State) : List String := s.launcher.scans.flatMap ScanResult.uris

end State

structure Kept (env : Env) (s : State) : Prop where
  files : ∀ file ∈ s.files, Generated env s.names file.1
  uris : ∀ uri ∈ s.uris, ∃ path, Generated env s.names path ∧ uri = env.fileUri path
  distinct : s.uris.Nodup

-- What a step adds comes after what was there.
structure Grows (s s' : State) : Prop where
  files : s.files <+: s'.files
  scans : s.launcher.scans <+: s'.launcher.scans

section

variable {env : Env} {s s' t : State} {e : Event} {es : List Event}

theorem kept_init (env : Env) : Kept env init := by
  constructor
  . intro file hfile
    contradiction
  . intro uri huri
    contradiction
  . exact List.nodup_nil

theorem Grows.trans (h : Grows s t) (h' : Grows t s') : Grows s s' := by
  exact ⟨h.files.trans h'.files, h.scans.trans h'.scans⟩

theorem Kept.files_finished (h : Kept env s) (scan : VNDocumentCameraScan)
    : (s.directory.overlay (documentCameraViewController (env.after s.names) scan)).files
        =
      s.files ++ (documentCameraViewController (env.after s.names) scan).files := by
  exact files_overlay h.files (filed_documentCamera _ scan)

theorem Kept.finished (h : Kept env s) (scan : VNDocumentCameraScan)
    (hfiles : s'.files = s.files ++ (documentCameraViewController (env.after s.names) scan).files)
    (hnames : s'.names = s.names + (documentCameraViewController (env.after s.names) scan).names)
    (hscans : s'.launcher.scans
      = s.launcher.scans ++ (documentCameraViewController (env.after s.names) scan).scans)
    : Kept env s' := by
  have hfiled := filed_documentCamera (env.after s.names) scan
  have huris : s'.uris = s.uris
      ++ (documentCameraViewController (env.after s.names) scan).scans.flatMap
        ScanResult.uris := by
    simp only [State.uris, hscans, List.flatMap_append]
  constructor
  . rw [hfiles, hnames]
    intro file hfile
    rw [List.mem_append] at hfile
    rcases hfile with hfile | hfile
    . exact (h.files file hfile).mono (Nat.le_add_right _ _)
    . exact (hfiled.files file hfile).of_after
  . rw [huris, hnames]
    intro uri huri
    rw [List.mem_append] at huri
    rcases huri with huri | huri
    . rcases h.uris uri huri with ⟨path, hpath, rfl⟩
      exact ⟨path, hpath.mono (Nat.le_add_right _ _), rfl⟩
    . rcases hfiled.uris uri huri with ⟨path, hpath, rfl⟩
      exact ⟨path, hpath.of_after, rfl⟩
  . rw [huris, List.nodup_append]
    refine ⟨h.distinct, hfiled.distinct, ?_⟩
    intro uri huri other hother
    rcases h.uris uri huri with ⟨path, hpath, rfl⟩
    rcases hfiled.uris other hother with ⟨path', hpath', rfl⟩
    exact hpath.fileUri_ne hpath'

theorem Kept.step (h : Kept env s) (hs : Step env s e s') : Kept env s' ∧ Grows s s' := by
  cases hs with
  | finished id scan launcher hscans =>
    constructor
    . exact h.finished scan (h.files_finished scan) rfl hscans
    . constructor
      . simp only [h.files_finished scan, List.prefix_append]
      . simp only [hscans, List.prefix_append]
  | launcher event launcher hscans =>
    have huris : State.uris { s with launcher } = s.uris := by
      simp only [State.uris, hscans]
    constructor
    . constructor
      . exact h.files
      . rw [huris]
        exact h.uris
      . rw [huris]
        exact h.distinct
    . constructor
      . exact List.prefix_refl s.files
      . simp only [hscans, List.prefix_refl]

theorem Kept.exec (h : Kept env s) (hexec : exec (ScannedFiles.step env) s es = some s')
    : Kept env s' ∧ Grows s s' := by
  induction es generalizing s with
  | nil =>
    simp only [exec_nil, Option.some.injEq] at hexec
    subst hexec
    exact ⟨h, List.prefix_refl _, List.prefix_refl _⟩
  | cons e es ih =>
    rw [exec_cons, Option.bind_eq_some_iff] at hexec
    rcases hexec with ⟨t, ht, hexec⟩
    rcases h.step (Step.of_step ht) with ⟨hkept, hgrows⟩
    rcases ih hkept hexec with ⟨hkept', hgrows'⟩
    exact ⟨hkept', hgrows.trans hgrows'⟩

end

-- The result has the pages of the scan in their places, each URI names the file made of its page.
def Stored (env : Env) (s : DocumentCamera.State) (scan : VNDocumentCameraScan)
    (result : ScanResult) : Prop :=
  ∃ pdfUri pages, result = .documentResult scan.pageCount (some pdfUri) pages
    ∧ pages.length = scan.pageCount
    ∧ (∀ i < scan.pageCount, ∃ page jpegData, pages[i]? = some page
        ∧ (scan.imageOfPageAtIndex i).jpegRepresentation = some jpegData
        ∧ s.Names env page.imageUri (.jpeg jpegData))
    ∧ s.Names env pdfUri
        (.pdf (pdfPages ((List.range scan.pageCount).map scan.imageOfPageAtIndex)))

-- The scan that this event reports a result of.
def Event.scan? : Event → Option VNDocumentCameraScan
  | .didFinishWithScan _ scan =>
    if ∀ i < scan.pageCount, (scan.imageOfPageAtIndex i).Encodes then some scan else none
  | .launcher _ => none

section

variable {env env' : Env} {s s' : State} {d d' : DocumentCamera.State}
  {scan : VNDocumentCameraScan} {e : Event} {es : List Event}

theorem Stored.mono {result : ScanResult} (h : Stored env d scan result)
    (hnames : ∀ uri file, d.Names env uri file → d'.Names env' uri file)
    : Stored env' d' scan result := by
  rcases h with ⟨pdfUri, pages, hresult, hlength, hpages, hpdf⟩
  refine ⟨pdfUri, pages, hresult, hlength, ?_, hnames _ _ hpdf⟩
  intro i hi
  rcases hpages i hi with ⟨page, jpegData, hpage, hjpeg, hnamed⟩
  exact ⟨page, jpegData, hpage, hjpeg, hnames _ _ hnamed⟩

theorem stored_callback (hcreates : ∀ path, env.createsFile path = true)
    (hopens : ∀ path, env.opensPdf path = true) (hpages : scan.pageCount < 2 ^ 31)
    (hgood : ∀ i < scan.pageCount, (scan.imageOfPageAtIndex i).Encodes)
    : ∃ result, (documentCameraViewController env scan).scans = [result]
        ∧ Stored env (documentCameraViewController env scan) scan result := by
  have h := DocumentCamera.keepsPages_ok hcreates hopens hgood
  rw [← DocumentCamera.count_eq hpages, ← DocumentCamera.images_eq hpages] at h
  change DocumentCamera.KeepsPages env scan (documentCameraViewController env scan) at h
  rcases h.reported.mpr hgood with ⟨result, hmem⟩
  rcases h.pdf result hmem with ⟨pdfUri, hpdfUri, hpdf⟩
  have hcount := h.count result hmem
  refine ⟨.documentResult result.pageCount result.pdfUri result.pages, ?_, pdfUri, result.pages, ?_,
    hcount.2, h.page result hmem, hpdf⟩
  . rcases h.reportsOnce with ⟨other, hcalls⟩ | ⟨message, hcalls⟩
    . rw [hcalls] at hmem
      cases DocumentCamera.mem_onResult hmem
      simp [DocumentCamera.State.scans, hcalls, List.filterMap_cons, DocumentCamera.Call.scan?]
    . rw [hcalls] at hmem
      simp at hmem
  . rw [hcount.1, hpdfUri]

theorem scans_failed (env : Env) (hpages : scan.pageCount < 2 ^ 31)
    (hbad : ¬ ∀ i < scan.pageCount, (scan.imageOfPageAtIndex i).Encodes)
    : (documentCameraViewController env scan).scans = [] := by
  unfold documentCameraViewController
  rcases DocumentCamera.first_failure scan.images with hgood | ⟨good, bad, rest, hsplit, hgood, hfails⟩
  . rw [DocumentCamera.images_eq hpages] at hgood
    exact absurd (by simpa using hgood) hbad
  . rw [hsplit, DocumentCamera.finishWith_error hgood hfails]
    simp [DocumentCamera.State.scans, List.filterMap_cons, DocumentCamera.Call.scan?]

theorem stored_scan? (env : Env) (hcreates : ∀ path, env.createsFile path = true)
    (hopens : ∀ path, env.opensPdf path = true) (id : Nat) (hpages : scan.pageCount < 2 ^ 31)
    : List.Forall₂ (Stored env (documentCameraViewController env scan))
        (Event.didFinishWithScan id scan).scan?.toList
        (documentCameraViewController env scan).scans := by
  by_cases hgood : ∀ i < scan.pageCount, (scan.imageOfPageAtIndex i).Encodes
  . rcases stored_callback hcreates hopens hpages hgood with ⟨result, hscans, hstored⟩
    rw [Event.scan?, if_pos hgood, hscans]
    exact .cons hstored .nil
  . rw [Event.scan?, if_neg hgood, scans_failed env hpages hgood]
    exact .nil

theorem files_directory (s : State) : s.directory.files = s.files := by
  rfl

-- The names of `Stored` only depend on the files.
theorem names_congr {uri : String} {file : File} (hfiles : d'.files = d.files)
    (h : d.Names env uri file) : d'.Names env uri file := by
  unfold DocumentCamera.State.Names at h ⊢
  rw [hfiles]
  exact h

theorem Kept.stored_step (h : Kept env s) (hcreates : ∀ path, env.createsFile path = true)
    (hopens : ∀ path, env.opensPdf path = true)
    (hpages : ∀ id scan, e = .didFinishWithScan id scan → scan.pageCount < 2 ^ 31)
    (hs : Step env s e s') {scans : List VNDocumentCameraScan}
    (hstored : List.Forall₂ (Stored env s.directory) scans s.launcher.scans)
    : List.Forall₂ (Stored env s'.directory) (scans ++ e.scan?.toList) s'.launcher.scans := by
  cases hs with
  | finished id scan launcher hscans =>
    have hfiled := filed_documentCamera (env.after s.names) scan
    have hnew := stored_scan? (env.after s.names) hcreates hopens id (hpages id scan rfl)
    simp only [hscans]
    apply List.rel_append
    . apply hstored.imp
      intro scan' result hold
      apply hold.mono
      intro uri file hnames
      exact names_congr (files_directory _) (names_stay h.files hfiled hnames)
    . apply hnew.imp
      intro scan' result hold
      apply hold.mono
      intro uri file hnames
      exact names_congr (files_directory _) (names_added h.files hfiled hnames)
  | launcher event launcher hscans =>
    simp only [hscans, Event.scan?, Option.toList_none, List.append_nil]
    exact hstored

theorem stored_exec (hcreates : ∀ path, env.createsFile path = true)
    (hopens : ∀ path, env.opensPdf path = true)
    (hpages : ∀ id scan, .didFinishWithScan id scan ∈ es → scan.pageCount < 2 ^ 31)
    (h : Kept env s) {scans : List VNDocumentCameraScan}
    (hstored : List.Forall₂ (Stored env s.directory) scans s.launcher.scans)
    (hexec : exec (step env) s es = some s')
    : List.Forall₂ (Stored env s'.directory) (scans ++ es.filterMap Event.scan?)
        s'.launcher.scans := by
  induction es generalizing s scans with
  | nil =>
    simp only [exec_nil, Option.some.injEq] at hexec
    subst hexec
    rw [List.filterMap_nil, List.append_nil]
    exact hstored
  | cons e es ih =>
    rw [exec_cons, Option.bind_eq_some_iff] at hexec
    rcases hexec with ⟨t, ht, hexec⟩
    have hs := Step.of_step ht
    have hhead : ∀ id scan, e = .didFinishWithScan id scan → scan.pageCount < 2 ^ 31 := by
      rintro id scan rfl
      exact hpages id scan List.mem_cons_self
    have hrest := ih (fun id scan hmem => hpages id scan (List.mem_cons_of_mem e hmem))
      (h.step hs).1 (h.stored_step hcreates hopens hhead hs hstored) hexec
    cases hscan : e.scan? <;> simpa [hscan] using hrest

end

/--
In every run of the scanner and of every run after it: no file is removed or overwritten, no result
is taken back, and no two reported URIs are the same.
-/
theorem filesStay (env : Env) (es fs : List Event) (s s' : State)
    (hexec : exec (step env) init es = some s) (hrest : exec (step env) s fs = some s')
    : s.files <+: s'.files ∧ s.launcher.scans <+: s'.launcher.scans ∧ s'.uris.Nodup := by
  have hkept := ((kept_init env).exec hexec).1
  rcases hkept.exec hrest with ⟨hkept', hgrows⟩
  exact ⟨hgrows.files, hgrows.scans, hkept'.distinct⟩

def firstScan : List Event :=
  [
    .launcher .enterComposition, .launcher .runLauncherEffect, .launcher .runTriggerEffect,
    .launcher .documentTabTapped, .launcher .collectOpenScanner, .launcher .recompose,
    .launcher .runTriggerEffect, .launcher (.runMainQueue true true),
    .didFinishWithScan 0 DocumentCamera.onePage
  ]

def secondScan : List Event :=
  [
    .launcher .collectOpenScanner, .launcher .recompose, .launcher .runTriggerEffect,
    .launcher .documentTabTapped, .launcher .collectOpenScanner, .launcher .recompose,
    .launcher .runTriggerEffect, .launcher (.runMainQueue true true),
    .didFinishWithScan 1 DocumentCamera.onePage
  ]

def afterFirst : State :=
  (exec (step DocumentCamera.emptyDevice) init firstScan).get (by decide +kernel)

def afterSecond : State :=
  (exec (step DocumentCamera.emptyDevice) afterFirst secondScan).get (by decide +kernel)

theorem twoScans_filesStay
    : afterFirst.files <+: afterSecond.files
        ∧ afterFirst.launcher.scans <+: afterSecond.launcher.scans ∧ afterSecond.uris.Nodup := by
  apply filesStay DocumentCamera.emptyDevice firstScan secondScan afterFirst afterSecond
  . exact (Option.some_get _).symm
  . exact (Option.some_get _).symm

/--
Where every write succeeds, the results that Home was handed are those of the finished scans whose
pages all encode, in their order, and at the end of the run every URI of each of them still names
the one file made of its page.
-/
theorem keepsScans (env : Env) (es : List Event) (s : State)
    (hcreates : ∀ path, env.createsFile path = true) (hopens : ∀ path, env.opensPdf path = true)
    (hpages : ∀ id scan, .didFinishWithScan id scan ∈ es → scan.pageCount < 2 ^ 31)
    (hexec : exec (step env) init es = some s)
    : List.Forall₂ (Stored env s.directory) (es.filterMap Event.scan?) s.launcher.scans := by
  exact stored_exec hcreates hopens hpages (kept_init env) .nil hexec

theorem twoScans_keepsScans
    : List.Forall₂ (Stored DocumentCamera.emptyDevice afterSecond.directory)
        ((firstScan ++ secondScan).filterMap Event.scan?) afterSecond.launcher.scans := by
  apply keepsScans DocumentCamera.emptyDevice (firstScan ++ secondScan) afterSecond
  . intro path
    rfl
  . intro path
    rfl
  . intro id scan hmem
    simp only [firstScan, secondScan, List.cons_append, List.nil_append, List.mem_cons,
      reduceCtorEq, Event.didFinishWithScan.injEq, List.not_mem_nil, or_false, false_or] at hmem
    rcases hmem with ⟨_, rfl⟩ | ⟨_, rfl⟩ <;> decide
  . rw [exec_append]
    have hfirst : exec (step DocumentCamera.emptyDevice) init firstScan = some afterFirst :=
      (Option.some_get _).symm
    rw [hfirst]
    exact (Option.some_get _).symm

end ScannedFiles
end MeeScanner
