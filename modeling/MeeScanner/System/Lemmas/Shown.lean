import MeeScanner.App.Lemmas.Shown
import MeeScanner.Document.Lemmas.Launch
import MeeScanner.System.Lemmas.Listed

/-!
This module contains the agreement of the parts of the app: the Result screen and the document
scanner know the scans of the camera and no others, and Home is in the composition as a whole.
-/

open Transition

namespace MeeScanner

def ScanResult.isDocument : ScanResult → Bool
  | .documentResult .. => true
  | _ => false

theorem Document.scans_step {s s' : Document.State} {e : Document.Event}
    (hs : Document.Step s e s')
    : s'.scans
        =
      s.scans ++ e.result?.toList.map fun result =>
        .documentResult result.pageCount result.pdfUri result.pages := by
  cases hs with
  | cancelled resultCode data _ _ hcode =>
    cases data <;> simp [Document.Event.result?, hcode, State.onError]
  | _ => simp [Document.Event.result?, State.onError, State.onResult, State.documentScanner]

def App.Event.scan? : App.Event → Option (ScanResult × AnalyzerType)
  | .scanDelivered result analyzerType => some (result, analyzerType)
  | _ => none

theorem App.scans_step {s s' : App.State} {e : App.Event} (hs : App.Step s e s')
    : s'.scans = s.scans ++ e.scan?.toList := by
  cases hs <;> simp [App.Event.scan?, App.State.onScanResult, App.State.navigate,
    App.State.popBackStack, App.State.replace, App.State.processQr]

namespace System

/-- What the parts of the app know about the scans. -/
structure Agrees (s : State) : Prop where
  shows : App.ShowsScans s.app
  delivered : s.app.scans.map (fun scan => (scan.1, scan.2.name))
    = s.camera.scans.map fun scan => (scan.result, scan.row.scanType)
  documents : s.document.scans = (s.camera.scans.map (·.result)).filter (·.isDocument)

theorem agrees_init : Agrees init := by
  constructor
  . exact App.showsScans_init
  . rfl
  . rfl

section

variable {s s' : State} {e : Event}

theorem app_scans_step (h : step s e = some s')
    : s'.app.scans = s.app.scans ++ (s.calls e).map fun call => (call.result, call.analyzerType) := by
  have hlog := log_of_exec (fun s e s' hs => App.scans_step (App.Step.of_step hs))
    (appPart.exec_events s e s' h)
  have hentries : (s.appEvents e).flatMap (fun f => f.scan?.toList)
      = (s.calls e).map fun call => (call.result, call.analyzerType) := by
    have hown := (step_eq_some_iff.mp h).1
    cases e with
    | app event =>
      cases event with
      | scanDelivered => contradiction
      | _ => rfl
    | enterHome => rfl
    | leaveHome => rfl
    | _ =>
      simp only [State.appEvents]
      rcases calls_cases s _ with hnil | ⟨call, hcall⟩
      . rw [hnil]
        rfl
      . rw [hcall]
        rfl
  rw [← hentries]
  exact hlog

theorem not_document_of_own {event : Camera.Event} (hown : (Event.camera event).own = true)
    {call : History.Call} (hcall : s.camera.call? event = some call)
    : call.result.isDocument = false := by
  cases event with
  | documentResult => contradiction
  | barcodeSuccess task barcodes =>
    cases barcodes with
    | nil => contradiction
    | cons barcode barcodes =>
      injection hcall with hcall
      rw [← hcall]
      rfl
  | textSuccess =>
    injection hcall with hcall
    rw [← hcall]
    rfl
  | objectSuccess task objects =>
    simp only [Camera.State.call?] at hcall
    split at hcall
    . rw [Option.map_eq_some_iff] at hcall
      rcases hcall with ⟨infos, _, rfl⟩
      rfl
    . contradiction
  | _ => contradiction

theorem document_scans_step (h : step s e = some s')
    : s'.document.scans
        =
      s.document.scans ++ ((s.calls e).map (·.result)).filter (·.isDocument) := by
  have hlog := log_of_exec (fun s e s' hs => Document.scans_step (Document.Step.of_step hs))
    (documentPart.exec_events s e s' h)
  have hentries : e.documentEvents.flatMap (fun f => f.result?.toList.map fun result =>
        ScanResult.documentResult result.pageCount result.pdfUri result.pages)
      = ((s.calls e).map (·.result)).filter (·.isDocument) := by
    have hown := (step_eq_some_iff.mp h).1
    cases e with
    | document event now =>
      cases hresult : event.result? <;>
        simp [Event.documentEvents, State.calls, Event.cameraEvents, hresult, Camera.State.call?,
          ScanResult.isDocument]
    | camera event =>
      simp only [State.calls, Event.cameraEvents, Event.documentEvents, List.flatMap_nil]
      cases hcall : s.camera.call? event with
      | none => simp [hcall]
      | some call => simp [hcall, not_document_of_own hown hcall]
    | _ => rfl
  rw [← hentries]
  exact hlog

theorem Agrees.step (h : Agrees s) (hs : step s e = some s') : Agrees s' := by
  have hfiled := filed_step hs
  constructor
  . apply appPart.inv_step _ h.shows hs
    intro t f t' hshows ht
    exact hshows.step (App.Step.of_step ht)
  . have hscans := congrArg (List.map fun filed => (filed.1, filed.2.scanType)) hfiled
    rw [app_scans_step hs, List.map_append, h.delivered]
    simp only [List.map_append, List.map_map] at hscans
    have hcalls : ∀ call : History.Call, (call.filed.1, call.filed.2.scanType)
        = (call.result, call.analyzerType.name) := by
      intro call
      simp [History.Call.filed, History.Call.row]
    rw [List.map_map]
    symm
    apply hscans.trans
    congr 1
    apply List.map_congr_left
    intro call _
    apply hcalls call
  . have hresults := congrArg (List.map Prod.fst) hfiled
    simp only [List.map_append, List.map_map] at hresults
    rw [document_scans_step hs, h.documents, ← List.filter_append]
    congr 1
    exact hresults.symm

theorem agrees_exec {es : List Event} (hexec : exec step init es = some s) : Agrees s := by
  apply inv_of_exec _ agrees_init hexec
  intro s e s' h hs
  exact h.step hs

theorem Agrees.results (h : Agrees s)
    : s.app.scans.map Prod.fst = s.camera.scans.map (·.result) := by
  have hdelivered := congrArg (List.map Prod.fst) h.delivered
  simp only [List.map_map] at hdelivered
  exact hdelivered

theorem Agrees.mem (h : Agrees s) {scan : ScanResult × AnalyzerType} (hmem : scan ∈ s.app.scans)
    : ∃ scan' ∈ s.camera.scans, scan'.result = scan.1 := by
  have hresult : scan.1 ∈ s.app.scans.map Prod.fst := List.mem_map_of_mem hmem
  rw [h.results, List.mem_map] at hresult
  exact hresult

end

/-- What the Result screen and the document scanner know, in terms of the scans of the camera. -/
structure KnowsScans (s : State) : Prop where
  current : s.app.resultViewModel.scanResult = s.camera.scans.getLast?.map (·.result)
  shown : ∀ c ∈ s.app.composed, c.entry.route = .result →
    ∃ scan ∈ s.camera.scans, c.scanResult = some scan.result
  opened : ∀ rawValue ∈ s.app.opened,
    ∃ scan ∈ s.camera.scans, ∃ frame, scan.result = .qrResult rawValue frame
  documents : s.document.scans = (s.camera.scans.map (·.result)).filter (·.isDocument)

theorem Agrees.knows {s : State} (h : Agrees s) : KnowsScans s := by
  constructor
  . rw [h.shows.current, ← List.getLast?_map, h.results, List.getLast?_map]
  . intro c hc hroute
    rcases h.shows.shown c hc hroute with ⟨scan, hscan, hresult⟩
    rcases h.mem hscan with ⟨scan', hscan', hsame⟩
    exact ⟨scan', hscan', by rw [hresult, hsame]⟩
  . intro rawValue hopened
    rcases h.shows.opened rawValue hopened with ⟨scan, hscan, frame, hqr⟩
    rcases h.mem hscan with ⟨scan', hscan', hsame⟩
    exact ⟨scan', hscan', frame, by rw [hsame, hqr]⟩
  . exact h.documents

section

variable {es : List Event} {s : State} {rows : List ScanHistoryEntity}
  (hexec : exec step init es = some s) (hsettled : s.history.Settled)
  (hsuccess : s.history.historyViewModel.historyUiState = .success rows)

include hexec hsettled hsuccess in
theorem listed_of_mem {scan : Camera.Scan} (hmem : scan ∈ s.camera.scans)
    : ∃ row ∈ s.history.list "ALL", ∃ analyzerType now,
        row.withoutId = ScanHistoryUseCase.saveHistory scan.result analyzerType now := by
  have hlisted := (listed_orderByDesc hexec hsettled hsuccess "ALL").perm
  have hrow : scan.row ∈ s.scanned "ALL" := by
    simp only [State.scanned, true_or, decide_true, List.filter_true, List.mem_map]
    exact ⟨scan, hmem, rfl⟩
  rw [← hlisted.mem_iff, List.mem_map] at hrow
  rcases hrow with ⟨row, hlist, hrow⟩
  rcases (stored_exec hexec).saved scan.filed (List.mem_map_of_mem hmem) with
    ⟨analyzerType, now, hsaved⟩
  exact ⟨row, hlist, analyzerType, now, hrow.trans hsaved⟩

end

-- The link of a scan is opened, and the history screen shows its row.
def scanAndOpen : List Event :=
  let row := ScanHistoryUseCase.saveHistory (.qrResult "tel:1" none) .qr 5
  let result : ScanResult := .qrResult "tel:1" none
  [
    .enterHome true true, .camera .runCameraEffect, .camera (.frame true),
    .camera (.barcodeSuccess ⟨2, ⟨.qr, false, 0⟩, .barcodes ⟨1, 0⟩ false⟩ [some "tel:1"] none 5),
    .app (.enter ⟨1, .result⟩),
    .app (.runEffect ⟨⟨1, .result⟩, some result, ⟨some (some result), some ()⟩⟩),
    .history (.inserted row 1), .history .enterComposition, .history .runLoadEffect,
    .history (.collected 0 1 [{ row with id := 1 }]), .history .collectUiState,
    .history .recompose
  ]

def afterScanAndOpen : State := (exec step init scanAndOpen).get (by decide)

theorem resultsListed (es : List Event) (s : State) (rows : List ScanHistoryEntity)
    (hexec : exec step init es = some s) (hsettled : s.history.Settled)
    (hsuccess : s.history.historyViewModel.historyUiState = .success rows)
    : (∀ rawValue ∈ s.app.opened, ∃ row ∈ s.history.list "ALL",
        row.title = "QR Code" ∧ row.data = rawValue)
        ∧ ∀ c ∈ s.app.composed, c.entry.route = .result →
          ∃ result, c.scanResult = some result ∧ ∃ row ∈ s.history.list "ALL",
            ∃ analyzerType now,
              row.withoutId = ScanHistoryUseCase.saveHistory result analyzerType now := by
  have hknows := (agrees_exec hexec).knows
  constructor
  . intro rawValue hopened
    rcases hknows.opened rawValue hopened with ⟨scan, hscan, frame, hqr⟩
    rcases listed_of_mem hexec hsettled hsuccess hscan with ⟨row, hrow, analyzerType, now, hsaved⟩
    rw [hqr] at hsaved
    refine ⟨row, hrow, ?_, ?_⟩
    . calc
        row.title = row.withoutId.title := rfl
        _ = "QR Code" := by rw [hsaved]; rfl
    . calc
        row.data = row.withoutId.data := rfl
        _ = rawValue := by rw [hsaved]; rfl
  . intro c hc hroute
    rcases hknows.shown c hc hroute with ⟨scan, hscan, hresult⟩
    rcases listed_of_mem hexec hsettled hsuccess hscan with ⟨row, hrow, analyzerType, now, hsaved⟩
    exact ⟨scan.result, hresult, row, hrow, analyzerType, now, hsaved⟩

theorem scanAndOpen_listed
    : (∀ rawValue ∈ afterScanAndOpen.app.opened, ∃ row ∈ afterScanAndOpen.history.list "ALL",
        row.title = "QR Code" ∧ row.data = rawValue)
        ∧ ∀ c ∈ afterScanAndOpen.app.composed, c.entry.route = .result →
          ∃ result, c.scanResult = some result ∧ ∃ row ∈ afterScanAndOpen.history.list "ALL",
            ∃ analyzerType now,
              row.withoutId = ScanHistoryUseCase.saveHistory result analyzerType now := by
  apply resultsListed scanAndOpen _ _ (Option.some_get _).symm
  . decide
  . rfl

end System
end MeeScanner
