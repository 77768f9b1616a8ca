import MeeScanner.Camera.Lemmas.Filing
import MeeScanner.System.Lemmas.Parts

/-!
This module contains what the history screen lists, end to end: the rows of all scans that a
recogniser or the document scanner ever delivered, and when a tab lists the scans of its kind.
-/

open Query Transition

namespace MeeScanner

theorem kind_of_saveHistory_eq {result result' : ScanResult} {analyzerType analyzerType' : AnalyzerType}
    {now now' : Int}
    (h : ScanHistoryUseCase.saveHistory result analyzerType now
      = ScanHistoryUseCase.saveHistory result' analyzerType' now') : result.kind = result'.kind := by
  cases result <;> cases result' <;> simp_all [ScanHistoryUseCase.saveHistory, ScanResult.kind]

theorem History.stored_eq_filter (calls : List History.Call) (tab : String)
    : History.stored calls tab
        =
      (calls.map History.Call.row).filter fun row => tab = "ALL" ∨ tab = row.scanType := by
  simp only [History.stored, List.filter_map]
  congr 1
  apply List.filter_congr
  intro call _
  simp [History.Call.row]

theorem Camera.rowsFiled_iff_filed {s : Camera.State}
    : Camera.RowsFiled s
        ↔
      ∀ filed ∈ s.scans.map Camera.Scan.filed, filed.2.scanType = filed.1.kind.name := by
  simp [Camera.RowsFiled, Camera.Scan.filed]

namespace System

namespace State

def scanned (s : State) (tab : String) : List ScanHistoryEntity :=
  (s.camera.scans.map (·.row)).filter fun row => tab = "ALL" ∨ tab = row.scanType

def scannedOfKind (s : State) (tab : String) : List ScanHistoryEntity :=
  (s.camera.scans.filter fun scan => tab = "ALL" ∨ tab = scan.result.kind.name).map (·.row)

end State

def AnswersInMode (s : State) : Event → Prop
  | .camera event => Camera.AnswersInMode s.camera event
  | _ => True

structure Stored (s : State) : Prop where
  kept : History.Kept s.history
  rows : s.history.rows.Perm (s.camera.scans.map (·.row))
  saved : ∀ filed ∈ s.camera.scans.map Camera.Scan.filed, ∃ analyzerType now,
    filed.2 = ScanHistoryUseCase.saveHistory filed.1 analyzerType now

/-- What the tabs of a settled history screen list. -/
structure ListsScans (s : State) : Prop where
  shown : s.history.selectedFilterTab ∈ HistoryScreen.tabList
    ∧ s.history.items = some (s.history.list s.history.selectedFilterTab)
  listed : ∀ tab ∈ HistoryScreen.tabList,
    OrderByDesc ScanHistoryEntity.createdAt (s.scanned tab)
      ((s.history.list tab).map ScanHistoryEntity.withoutId)
  fresh : ∀ tab ∈ HistoryScreen.tabList, ((s.history.list tab).map (·.id)).Nodup
  filed : ∀ row ∈ s.history.list "ALL",
    ∃! tab, (tab ∈ HistoryScreen.tabList ∧ tab ≠ "ALL") ∧ row ∈ s.history.list tab

theorem stored_init : Stored init := by
  constructor
  . exact History.kept_init
  . exact List.Perm.refl _
  . intro filed hmem
    contradiction

section

variable {s s' : State} {e : Event} {es : List Event}

theorem map_snd_filed (scans : List Camera.Scan)
    : (scans.map Camera.Scan.filed).map Prod.snd = scans.map (·.row) := by
  simp [Camera.Scan.filed]

theorem Stored.step (h : Stored s) (hs : step s e = some s') : Stored s' := by
  have hfiled := filed_step hs
  constructor
  . apply historyPart.inv_step _ h.kept hs
    intro t f t' hkept ht
    apply hkept.step (History.Step.of_step ht)
  . have hrows := History.rows_exec_perm h.kept (historyPart.exec_events s e s' hs)
    have hcalls : History.calls (historyPart.events s e) = s.calls e := calls_historyEvents hs
    have hscans := congrArg (List.map Prod.snd) hfiled
    rw [List.map_append, map_snd_filed, map_snd_filed] at hscans
    rw [hscans, List.map_map]
    rw [hcalls] at hrows
    apply hrows.trans
    apply h.rows.append_right
  . intro filed hmem
    rw [hfiled, List.mem_append] at hmem
    rcases hmem with hmem | hmem
    . exact h.saved filed hmem
    . rw [List.mem_map] at hmem
      rcases hmem with ⟨call, _, rfl⟩
      exact ⟨call.analyzerType, call.now, rfl⟩

theorem stored_exec (hexec : exec step init es = some s) : Stored s := by
  apply inv_of_exec _ stored_init hexec
  intro s e s' h hs
  exact h.step hs

-- The calls the history has seen are the scans, in whatever order their inserts were done.
theorem stored_perm_scanned (hexec : exec step init es = some s) (tab : String)
    : (History.stored (History.calls (traces step historyPart.events init es)) tab).Perm
        (s.scanned tab) := by
  rw [History.stored_eq_filter]
  apply List.Perm.filter
  have hrows := History.rows_exec_perm History.kept_init (historyPart.exec_traces hexec)
  have hinit : History.init.rows = [] := rfl
  rw [hinit, List.nil_append] at hrows
  exact hrows.symm.trans (stored_exec hexec).rows

theorem answersInMode_iff {f : Camera.Event} (hf : e.cameraEvents = [f])
    : AnswersInMode s e ↔ Camera.AnswersInMode s.camera f := by
  cases e with
  | camera event =>
    injection hf with hf
    rw [hf]
    rfl
  | document event now =>
    cases hresult : event.result? with
    | none => simp [Event.cameraEvents, hresult] at hf
    | some result =>
      simp only [Event.cameraEvents, hresult, Option.toList_some, List.map_cons, List.map_nil,
        List.cons.injEq, and_true] at hf
      subst hf
      rfl
  | enterHome granted hasActivity =>
    injection hf with hf
    subst hf
    rfl
  | leaveHome c =>
    injection hf with hf
    subst hf
    rfl
  | _ => contradiction

theorem rowsFiled_iff_meets (hexec : exec step init es = some s)
    : Camera.RowsFiled s.camera ↔ Meets step AnswersInMode init es := by
  apply last_iff_meets (I := fun s => Camera.RowsFiled s.camera ∧ Camera.TasksInMode s.camera)
    _ _ _ _ _ hexec
  . intro s h
    exact h.1
  . intro s e s' h hguard hs
    rcases camera_step hs with ⟨_, hsame⟩ | ⟨f, hf, hstep⟩
    . rw [hsame]
      exact h
    . rw [answersInMode_iff hf] at hguard
      exact ⟨h.1.step h.2 hguard hstep, h.2.step hstep⟩
  . intro s e s' h hguard hs
    rcases camera_step hs with ⟨hnil, _⟩ | ⟨f, hf, hstep⟩
    . cases e with
      | camera event => contradiction
      | _ => exact absurd trivial hguard
    . rw [answersInMode_iff hf] at hguard
      exact Camera.RowsFiled.step_bad h.2 hguard hstep
  . intro s e s' hviolated hs hfiled
    apply hviolated
    rw [Camera.rowsFiled_iff_filed, filed_step hs, List.forall_mem_append] at hfiled
    rw [Camera.rowsFiled_iff_filed]
    exact hfiled.1
  . constructor
    . intro scan hmem
      contradiction
    . intro task hmem
      contradiction

theorem scanned_of_rowsFiled (h : Camera.RowsFiled s.camera) (tab : String)
    : s.scanned tab = s.scannedOfKind tab := by
  simp only [State.scanned, State.scannedOfKind, List.filter_map]
  congr 1
  apply List.filter_congr
  intro scan hmem
  simp [h scan hmem]

-- The title of a row tells its kind, so a row in the tab of another kind cannot hide in the count.
theorem rowsFiled_of_scanned (h : Stored s)
    (hkinds : ∀ tab ∈ HistoryScreen.tabList, (s.scanned tab).Perm (s.scannedOfKind tab))
    : Camera.RowsFiled s.camera := by
  intro scan hmem
  have hsaved : ∀ scan ∈ s.camera.scans, ∃ analyzerType now,
      scan.row = ScanHistoryUseCase.saveHistory scan.result analyzerType now := by
    intro scan hmem
    exact h.saved scan.filed (List.mem_map_of_mem hmem)
  rcases hsaved scan hmem with ⟨analyzerType, now, hrow⟩
  have htype : scan.row.scanType = analyzerType.name := by simp [hrow]
  have htab := History.name_mem_tabList analyzerType
  have hlisted : scan.row ∈ s.scanned analyzerType.name := by
    simp only [State.scanned, List.mem_filter, List.mem_map]
    exact ⟨⟨scan, hmem, rfl⟩, by simp [htype]⟩
  rw [(hkinds _ htab.1).mem_iff] at hlisted
  simp only [State.scannedOfKind, List.mem_map, List.mem_filter, htab.2, false_or,
    decide_eq_true_eq] at hlisted
  rcases hlisted with ⟨other, ⟨hother, hname⟩, hsame⟩
  rcases hsaved other hother with ⟨analyzerType', now', hrow'⟩
  have hkind : other.result.kind = scan.result.kind := by
    apply kind_of_saveHistory_eq
    rw [← hrow, ← hrow', hsame]
  rw [htype, hname, hkind]

end

section

variable {es : List Event} {s : State} {rows : List ScanHistoryEntity}
  (hexec : exec step init es = some s) (hsettled : s.history.Settled)
  (hsuccess : s.history.historyViewModel.historyUiState = .success rows)

include hexec hsettled hsuccess in
theorem listed_orderByDesc (tab : String)
    : OrderByDesc ScanHistoryEntity.createdAt (s.scanned tab)
        ((s.history.list tab).map ScanHistoryEntity.withoutId) := by
  have hhistory := historyPart.exec_traces hexec
  have hlist := History.list_orderByDesc hhistory hsettled hsuccess tab
  exact hlist.of_perm (stored_perm_scanned hexec tab)

end

/-
A QR code and a document are scanned, the row of the document is inserted first, and the history
screen is opened.
-/
def twoScans : List Event :=
  let qr := ScanHistoryUseCase.saveHistory (.qrResult "tel:1" none) .qr 5
  let document := ScanHistoryUseCase.saveHistory (.documentResult 1 (some "content://d") []) .document 7
  [
    .enterHome true true, .camera .runCameraEffect, .camera (.frame true),
    .camera (.barcodeSuccess ⟨2, ⟨.qr, false, 0⟩, .barcodes ⟨1, 0⟩ false⟩ [some "tel:1"] none 5),
    .document .documentTabTapped 6, .document .collectOpenScanner 6, .document .recompose 6,
    .document .runScannerEffect 6, .document .startIntentSuccess 6,
    .document (.activityResult Document.resultOk (some ⟨some ["p"], some "content://d"⟩)) 7,
    .history .enterComposition, .history .runLoadEffect, .history (.inserted document 1),
    .history (.inserted qr 2),
    .history (.collected 0 2 [{ document with id := 1 }, { qr with id := 2 }]),
    .history .collectUiState, .history .recompose
  ]

def afterTwoScans : State := (exec step init twoScans).get (by decide)

theorem listsScans (es : List Event) (s : State) (rows : List ScanHistoryEntity)
    (hexec : exec step init es = some s) (hsettled : s.history.Settled)
    (hsuccess : s.history.historyViewModel.historyUiState = .success rows) : ListsScans s := by
  have hrefines := History.refines (historyPart.exec_traces hexec) hsettled hsuccess
  constructor
  . exact hrefines.shown
  . intro tab _
    apply listed_orderByDesc hexec hsettled hsuccess
  . exact hrefines.fresh
  . exact hrefines.filed

theorem twoScans_listed : ListsScans afterTwoScans := by
  apply listsScans twoScans _ _ (Option.some_get _).symm
  . decide
  . rfl

theorem tabsListKinds_iff (es : List Event) (s : State) (rows : List ScanHistoryEntity)
    (hexec : exec step init es = some s) (hsettled : s.history.Settled)
    (hsuccess : s.history.historyViewModel.historyUiState = .success rows)
    : (∀ tab ∈ HistoryScreen.tabList,
        ((s.history.list tab).map ScanHistoryEntity.withoutId).Perm (s.scannedOfKind tab))
        ↔
      Meets step AnswersInMode init es := by
  rw [← rowsFiled_iff_meets hexec]
  have hlisted := fun tab => (listed_orderByDesc hexec hsettled hsuccess tab).perm
  constructor
  . intro hkinds
    apply rowsFiled_of_scanned (stored_exec hexec)
    intro tab htab
    exact (hlisted tab).symm.trans (hkinds tab htab)
  . intro hfiled tab _
    rw [← scanned_of_rowsFiled hfiled]
    exact hlisted tab

theorem twoScans_kinds
    : (∀ tab ∈ HistoryScreen.tabList,
        ((afterTwoScans.history.list tab).map ScanHistoryEntity.withoutId).Perm
          (afterTwoScans.scannedOfKind tab))
        ↔
      Meets step AnswersInMode init twoScans := by
  apply tabsListKinds_iff twoScans _ _ (Option.some_get _).symm
  . decide
  . rfl

end System
end MeeScanner
