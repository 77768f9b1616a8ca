import MeeScanner.History.Lemmas.Step

/-!
This module contains the refinement of the stored scans by the list that `HistoryScreen` shows. The
rows inserted and in flight are those of the calls so far, a success shows the table version that
its collector delivered last, and a filter tab commutes with the order of the query.
-/

open Query Transition

namespace MeeScanner

def ScanHistoryEntity.withoutId (row : ScanHistoryEntity) : ScanHistoryEntity :=
  { row with id := 0 }

namespace History

structure Call where
  result : ScanResult
  analyzerType : AnalyzerType
  now : Int
  deriving DecidableEq, Repr

def Call.row (call : Call) : ScanHistoryEntity :=
  ScanHistoryUseCase.saveHistory call.result call.analyzerType call.now

def Event.call? : Event → Option Call
  | .storeResult result analyzerType now => some ⟨result, analyzerType, now⟩
  | _ => none

def calls (es : List Event) : List Call := es.filterMap Event.call?

def stored (calls : List Call) (tab : String) : List ScanHistoryEntity :=
  (calls.filter fun call => tab = "ALL" ∨ tab = call.analyzerType.name).map Call.row

namespace State

def rows (s : State) : List ScanHistoryEntity :=
  s.table.map ScanHistoryEntity.withoutId ++ s.inserting

def list (s : State) (tab : String) : List ScanHistoryEntity :=
  HistoryScreen.filteredHistory s.historyViewModel.historyUiState tab

-- Every insert is done and has been emitted, and the screen is up to date with the view model.
def Settled (s : State) : Prop :=
  s.inserting = []
    ∧ s.writes.getLast? = some (.success s.table.length)
    ∧ s.inComposition = true
    ∧ s.selectedFilterTab = s.historyViewModel.selectedFilterTab
    ∧ s.historyUiState = s.historyViewModel.historyUiState
    ∧ s.historyScreen = s
    ∧ s.loadEffect.scheduled = none

instance (s : State) : Decidable s.Settled := by
  unfold Settled
  infer_instance

end State

structure Kept (s : State) : Prop where
  fresh : (s.table.map (·.id)).Nodup
  zero : ∀ row ∈ s.inserting, row.id = 0
  tab : s.historyViewModel.selectedFilterTab ∈ HistoryScreen.tabList
  shows : ∀ rows, s.historyViewModel.historyUiState = .success rows →
    ∃ version, s.writes.getLast? = some (.success version) ∧ version ≤ s.table.length
      ∧ ScanHistoryDao.GetAll (s.table.take version) rows

theorem kept_init : Kept init := by
  constructor <;> simp [init, HistoryScreen.tabList]

section

variable {s s' : State} {e : Event}

theorem Kept.inserted (h : Kept s) {history : ScanHistoryEntity} {id : Int}
    (hfresh : ∀ row ∈ s.table, row.id ≠ id)
    : Kept
        {
          s with
          inserting := s.inserting.erase history
          table := s.table ++ [{ history with id := id }]
        } := by
  constructor
  . simp only [List.map_append, List.map_cons, List.map_nil]
    rw [List.nodup_append]
    refine ⟨h.fresh, List.nodup_singleton _, ?_⟩
    intro a ha b hb
    simp only [List.mem_map] at ha
    rcases ha with ⟨row, hrow, rfl⟩
    simp only [List.mem_singleton] at hb
    rw [hb]
    apply hfresh row hrow
  . intro row hrow
    apply h.zero
    apply List.mem_of_mem_erase hrow
  . exact h.tab
  . intro rows hrows
    rcases h.shows rows hrows with ⟨version, hwrite, hle, hquery⟩
    refine ⟨version, hwrite, ?_, ?_⟩
    . simp only [List.length_append, List.length_singleton]
      omega
    . rw [List.take_append_of_le_length hle]
      exact hquery

theorem Kept.delivered (h : Kept s) (collector : Nat) (c : Collector) {version : Nat}
    {rows : List ScanHistoryEntity} (hversion : version ≤ s.table.length)
    (hrows : ScanHistoryDao.GetAll (s.table.take version) rows)
    : Kept (s.deliver collector c version rows) := by
  constructor
  . exact h.fresh
  . exact h.zero
  . exact h.tab
  . intro shown hshown
    injection hshown with hshown
    subst hshown
    refine ⟨version, ?_, hversion, hrows⟩
    simp [State.deliver, State.setUiState]

theorem Kept.setUiState (h : Kept s) (collectors : List Collector) {historyUiState : HistoryUiState}
    (hother : ∀ rows, historyUiState ≠ .success rows) (write : Write)
    : Kept (State.setUiState { s with collectors := collectors } historyUiState write) := by
  constructor
  . exact h.fresh
  . exact h.zero
  . exact h.tab
  . intro rows hrows
    exact absurd hrows (hother rows)

theorem Kept.step (h : Kept s) (hs : Step s e s') : Kept s' := by
  cases hs with
  | storeResult result analyzerType now =>
    refine ⟨h.fresh, ?_, h.tab, h.shows⟩
    intro row hrow
    simp only [State.storeResult, List.mem_append, List.mem_singleton] at hrow
    rcases hrow with hrow | rfl
    . apply h.zero row hrow
    . simp
  | inserted history id _ hfresh => apply h.inserted hfresh
  | collected collector c version rows _ _ hversion hrows =>
    apply h.delivered collector c hversion.2 hrows
  | failed collector c =>
    apply h.setUiState
    intro rows hcontra
    contradiction
  | tabSelected tab _ htab => exact ⟨h.fresh, h.zero, htab, h.shows⟩
  | loaded =>
    refine ⟨h.fresh, h.zero, h.tab, ?_⟩
    intro rows hcontra
    contradiction
  | _ => exact ⟨h.fresh, h.zero, h.tab, h.shows⟩

theorem withoutId_of_zero {row : ScanHistoryEntity} (hzero : row.id = 0) (id : Int)
    : ScanHistoryEntity.withoutId { row with id := id } = row := by
  cases row
  simp only at hzero
  simp [ScanHistoryEntity.withoutId, hzero]

theorem rows_inserted_perm {history : ScanHistoryEntity} {id : Int} (hmem : history ∈ s.inserting)
    (hzero : history.id = 0)
    : (State.rows
        {
          s with
          inserting := s.inserting.erase history
          table := s.table ++ [{ history with id := id }]
        }).Perm s.rows := by
  unfold State.rows
  simp only [List.map_append, List.map_cons, List.map_nil, withoutId_of_zero hzero,
    List.append_assoc, List.singleton_append]
  apply List.Perm.append_left
  apply (List.perm_cons_erase hmem).symm

theorem rows_silent_perm (hcall : e.call? = none) (hrows : s'.rows.Perm s.rows)
    : s'.rows.Perm (s.rows ++ (calls [e]).map Call.row) := by
  simpa [calls, hcall] using hrows

theorem rows_step_perm (h : Kept s) (hs : Step s e s')
    : s'.rows.Perm (s.rows ++ (calls [e]).map Call.row) := by
  cases hs with
  | storeResult => simp [State.rows, State.storeResult, calls, Event.call?, Call.row]
  | inserted history id hmem =>
    apply rows_silent_perm rfl
    apply rows_inserted_perm hmem
    apply h.zero history hmem
  | _ =>
    apply rows_silent_perm rfl
    exact List.Perm.refl _

theorem rows_exec_perm (h : Kept s) {es : List Event} (hexec : exec step s es = some s')
    : s'.rows.Perm (s.rows ++ (calls es).map Call.row) := by
  induction es generalizing s with
  | nil =>
    simp only [exec_nil, Option.some.injEq] at hexec
    subst hexec
    simp [calls]
  | cons e es ih =>
    rw [exec_cons, Option.bind_eq_some_iff] at hexec
    rcases hexec with ⟨t, hstep, hexec⟩
    have hs := Step.of_step hstep
    have hhead := rows_step_perm h hs
    have htail := ih (h.step hs) hexec
    have hcalls : (calls (e :: es)).map Call.row
        = (calls [e]).map Call.row ++ (calls es).map Call.row := by
      rw [← List.map_append, calls, calls, calls, ← List.filterMap_append]
      rfl
    rw [hcalls, ← List.append_assoc]
    apply htail.trans
    apply hhead.append_right

theorem kept_exec {es : List Event} (hexec : exec step init es = some s) : Kept s := by
  apply inv_of_exec _ kept_init hexec
  intro s e s' h hstep
  apply h.step (Step.of_step hstep)

theorem Kept.getAll (h : Kept s) (hsettled : s.Settled) {rows : List ScanHistoryEntity}
    (hsuccess : s.historyViewModel.historyUiState = .success rows)
    : ScanHistoryDao.GetAll s.table rows := by
  rcases h.shows rows hsuccess with ⟨version, hwrite, _, hquery⟩
  rw [hsettled.2.1] at hwrite
  injection hwrite with hwrite
  injection hwrite with hwrite
  rw [← hwrite, List.take_length] at hquery
  exact hquery

theorem filteredHistory_success (rows : List ScanHistoryEntity) (tab : String)
    : HistoryScreen.filteredHistory (.success rows) tab
        =
      rows.filter fun row => tab = "ALL" ∨ tab = row.scanType := by
  simp only [HistoryScreen.filteredHistory]
  split
  . next htab => simp [htab]
  . next htab =>
    simp only [htab, false_or]
    apply List.filter_congr
    intro row _
    simp only [decide_eq_decide]
    exact eq_comm

theorem items_of_settled (hsettled : s.Settled) {rows : List ScanHistoryEntity}
    (hsuccess : s.historyViewModel.historyUiState = .success rows)
    : s.items = some (s.list s.selectedFilterTab) := by
  rcases hsettled with ⟨_, _, _, _, hui, hscreen, _⟩
  rw [← hscreen]
  simp only [State.historyScreen, hui, hsuccess, State.list]

end

/-- What the list of a settled screen has to do with the calls of `storeResult`. -/
structure Refines (s : State) (calls : List Call) : Prop where
  shown : s.selectedFilterTab ∈ HistoryScreen.tabList
    ∧ s.items = some (s.list s.selectedFilterTab)
  stored : ∀ tab ∈ HistoryScreen.tabList,
    ((s.list tab).map ScanHistoryEntity.withoutId).Perm (stored calls tab)
  fresh : ∀ tab ∈ HistoryScreen.tabList, ((s.list tab).map (·.id)).Nodup
  sorted : ∀ tab ∈ HistoryScreen.tabList,
    (s.list tab).Pairwise fun a b => b.createdAt ≤ a.createdAt
  filed : ∀ row ∈ s.list "ALL",
    ∃! tab, (tab ∈ HistoryScreen.tabList ∧ tab ≠ "ALL") ∧ row ∈ s.list tab
  order : ∀ tab ∈ HistoryScreen.tabList, (s.list tab).Sublist (s.list "ALL")

section

variable {s : State} {es : List Event} {rows : List ScanHistoryEntity}
  (hexec : exec step init es = some s) (hsettled : s.Settled)
  (hsuccess : s.historyViewModel.historyUiState = .success rows)

include hexec hsettled in
theorem table_perm_calls
    : (s.table.map ScanHistoryEntity.withoutId).Perm ((calls es).map Call.row) := by
  have hrows := rows_exec_perm kept_init hexec
  unfold State.rows at hrows
  rw [hsettled.1] at hrows
  simpa [init] using hrows

include hexec hsettled hsuccess in
theorem list_orderByDesc (tab : String)
    : OrderByDesc ScanHistoryEntity.createdAt (stored (calls es) tab)
        ((s.list tab).map ScanHistoryEntity.withoutId) := by
  have hquery := (kept_exec hexec).getAll hsettled hsuccess
  have hall : OrderByDesc ScanHistoryEntity.createdAt
      (s.table.map ScanHistoryEntity.withoutId) (rows.map ScanHistoryEntity.withoutId) :=
    hquery.map fun _ => rfl
  have hcalls := hall.of_perm (table_perm_calls hexec hsettled)
  have hfilter := hcalls.filter fun row => tab = "ALL" ∨ tab = row.scanType
  have hstored : stored (calls es) tab
      = ((calls es).map Call.row).filter fun row => tab = "ALL" ∨ tab = row.scanType := by
    simp only [stored, List.filter_map]
    congr 1
    apply List.filter_congr
    intro call _
    simp [Call.row]
  have hlist : (s.list tab).map ScanHistoryEntity.withoutId
      = (rows.map ScanHistoryEntity.withoutId).filter
          fun row => tab = "ALL" ∨ tab = row.scanType := by
    simp only [State.list, hsuccess, filteredHistory_success, List.filter_map]
    rfl
  rw [hstored, hlist]
  exact hfilter

include hsuccess in
theorem list_all : s.list "ALL" = rows := by
  simp [State.list, hsuccess, HistoryScreen.filteredHistory]

include hsuccess in
theorem list_sublist (tab : String) : (s.list tab).Sublist (s.list "ALL") := by
  rw [list_all hsuccess]
  simp only [State.list, hsuccess, filteredHistory_success]
  exact List.filter_sublist

include hexec hsettled hsuccess in
theorem list_ids_nodup (tab : String) : ((s.list tab).map (·.id)).Nodup := by
  have hkept := kept_exec hexec
  have hquery := hkept.getAll hsettled hsuccess
  have hsub := (list_sublist hsuccess tab).map (·.id)
  rw [list_all hsuccess] at hsub
  apply hsub.nodup
  rw [(hquery.perm.map (·.id)).nodup_iff]
  exact hkept.fresh

include hexec hsettled hsuccess in
theorem scanType_of_mem {row : ScanHistoryEntity} (hmem : row ∈ rows)
    : ∃ analyzerType : AnalyzerType, row.scanType = analyzerType.name := by
  have hquery := (kept_exec hexec).getAll hsettled hsuccess
  have htable : row.withoutId ∈ s.table.map ScanHistoryEntity.withoutId := by
    apply List.mem_map_of_mem
    apply hquery.perm.mem_iff.mp hmem
  rw [(table_perm_calls hexec hsettled).mem_iff, List.mem_map] at htable
  rcases htable with ⟨call, _, hrow⟩
  refine ⟨call.analyzerType, ?_⟩
  calc
    row.scanType = row.withoutId.scanType := rfl
    _ = call.row.scanType := by rw [hrow]
    _ = call.analyzerType.name := by simp [Call.row]

theorem name_mem_tabList (analyzerType : AnalyzerType)
    : analyzerType.name ∈ HistoryScreen.tabList ∧ analyzerType.name ≠ "ALL" := by
  cases analyzerType <;> decide

include hexec hsettled hsuccess in
theorem filed_once {row : ScanHistoryEntity} (hmem : row ∈ s.list "ALL")
    : ∃! tab, (tab ∈ HistoryScreen.tabList ∧ tab ≠ "ALL") ∧ row ∈ s.list tab := by
  rw [list_all hsuccess] at hmem
  rcases scanType_of_mem hexec hsettled hsuccess hmem with ⟨analyzerType, htype⟩
  refine ⟨analyzerType.name, ⟨name_mem_tabList analyzerType, ?_⟩, ?_⟩
  . simp [State.list, hsuccess, filteredHistory_success, hmem, htype]
  . intro tab htab
    rcases htab with ⟨⟨_, hother⟩, hrow⟩
    simp only [State.list, hsuccess, filteredHistory_success, List.mem_filter, hother, false_or,
      decide_eq_true_eq] at hrow
    rw [hrow.2, htype]

include hexec hsettled hsuccess in
theorem refines : Refines s (calls es) := by
  constructor
  . constructor
    . rw [hsettled.2.2.2.1]
      exact (kept_exec hexec).tab
    . apply items_of_settled hsettled hsuccess
  . intro tab _
    exact (list_orderByDesc hexec hsettled hsuccess tab).perm
  . intro tab _
    apply list_ids_nodup hexec hsettled hsuccess
  . intro tab _
    have hsorted := (list_orderByDesc hexec hsettled hsuccess tab).sorted
    rw [List.pairwise_map] at hsorted
    exact hsorted
  . intro row hrow
    apply filed_once hexec hsettled hsuccess hrow
  . intro tab _
    apply list_sublist hsuccess

end

theorem stored_perm {cs cs' : List Call} (hperm : cs.Perm cs') (tab : String)
    : (stored cs tab).Perm (stored cs' tab) := by
  apply List.Perm.map
  apply List.Perm.filter
  exact hperm

theorem stored_clocks_nodup {cs : List Call} (hclocks : (cs.map (·.now)).Nodup) (tab : String)
    : ((stored cs tab).map (·.createdAt)).Nodup := by
  have hclock : (stored cs tab).map (·.createdAt)
      = (cs.filter fun call => tab = "ALL" ∨ tab = call.analyzerType.name).map (·.now) := by
    simp [stored, Call.row]
  rw [hclock]
  apply (List.filter_sublist.map _).nodup hclocks

theorem historyList_refines (es : List Event) (s : State) (rows : List ScanHistoryEntity)
    (hexec : exec step init es = some s) (hsettled : s.Settled)
    (hsuccess : s.historyViewModel.historyUiState = .success rows)
    : Refines s (calls es)
        ∧ ∀ es' s' rows', exec step init es' = some s' → s'.Settled →
          s'.historyViewModel.historyUiState = .success rows' → (calls es').Perm (calls es) →
          ((calls es).map (·.now)).Nodup →
            ∀ tab ∈ HistoryScreen.tabList,
              (s'.list tab).map ScanHistoryEntity.withoutId
                =
              (s.list tab).map ScanHistoryEntity.withoutId := by
  constructor
  . apply refines hexec hsettled hsuccess
  . intro es' s' rows' hexec' hsettled' hsuccess' hcalls hclocks tab _
    have hlist := list_orderByDesc hexec hsettled hsuccess tab
    have hlist' := list_orderByDesc hexec' hsettled' hsuccess' tab
    apply OrderByDesc.unique (hlist'.of_perm (stored_perm hcalls tab)) hlist
    apply stored_clocks_nodup hclocks

def twoInserts : List Event :=
  let qr := ScanHistoryUseCase.saveHistory (.qrResult "tel:1" none) .qr 5
  let text := ScanHistoryUseCase.saveHistory (.textResult "note" none) .text 7
  [
    .storeResult (.qrResult "tel:1" none) .qr 5, .storeResult (.textResult "note" none) .text 7,
    .enterComposition, .runLoadEffect, .inserted text 1,
    .collected 0 1 [{ text with id := 1 }], .inserted qr 2,
    .collected 0 2 [{ text with id := 1 }, { qr with id := 2 }], .collectUiState,
    .tabSelected "QR", .collectFilterTab, .recompose
  ]

theorem twoInserts_refines
    : Refines ((exec step init twoInserts).get (by decide)) (calls twoInserts) := by
  apply (historyList_refines twoInserts _
    [
      { ScanHistoryUseCase.saveHistory (.textResult "note" none) .text 7 with id := 1 },
      { ScanHistoryUseCase.saveHistory (.qrResult "tel:1" none) .qr 5 with id := 2 }
    ]
    (Option.some_get _).symm ?_ ?_).1
  . decide
  . decide

end History
end MeeScanner
