import MeeScanner.History.Lemmas.Refine
import MeeScanner.Reaches

/-!
This module contains the way of the history to a settled list. Whatever failed or was overtaken, the
screen is left and entered again, the inserts in flight are done and the new collection delivers.
-/

open Compose Query Transition

namespace MeeScanner
namespace History

-- The newest collection is live and has not seen more than the table has.
structure Loaded (s : State) : Prop where
  composed : s.inComposition = true
  effect : s.loadEffect = ⟨some (), none⟩
  live : ∃ c, s.collectors.getLast? = some c ∧ c.failed = false ∧ c.seen ≤ s.table.length

namespace State

def left (s : State) : State :=
  { s with inComposition := false, loadEffect := .absent, items := none }

def upToDate (s : State) : State :=
  {
    s with
    selectedFilterTab := s.historyViewModel.selectedFilterTab
    historyUiState := s.historyViewModel.historyUiState
  }.historyScreen

def entered (s : State) : State := State.upToDate { s with inComposition := true }

-- The screen is left and entered again, and its effect has run.
def reloaded (s : State) : State :=
  State.loadHistory { s.left.entered with loadEffect := ⟨some (), none⟩ }

end State

section

variable {s s' : State}

theorem kept_of_reaches (h : Kept s) (hreaches : Reaches step s s') : Kept s' := by
  apply hreaches.inv _ h
  intro s e s' h hs
  exact h.step (Step.of_step hs)

theorem step_left (hcomp : s.inComposition = true) : step s .leaveComposition = some s.left := by
  exact if_pos hcomp

theorem step_entered (hcomp : s.inComposition = false)
    : step s .enterComposition = some s.entered := by
  simp only [step, State.enterComposition, hcomp, Bool.false_eq_true, ↓reduceIte, State.entered,
    State.upToDate]

theorem step_loaded (s : State) : step s.left.entered .runLoadEffect = some s.reloaded := by
  rfl

theorem reaches_upToDate (hcomp : s.inComposition = true) : Reaches step s s.upToDate := by
  apply Reaches.of_exec [.collectFilterTab, .collectUiState, .recompose]
  simp [step, hcomp, State.upToDate]

theorem reaches_composed (s : State)
    : ∃ t, Reaches step s t ∧ t.inComposition = true ∧ t.rows = s.rows := by
  cases hcomp : s.inComposition with
  | true => exact ⟨s, Reaches.refl s, hcomp, rfl⟩
  | false => exact ⟨s.entered, Reaches.of_step (step_entered hcomp), rfl, rfl⟩

theorem loaded_reloaded (s : State) : Loaded s.reloaded := by
  refine ⟨rfl, rfl, { start := s.table.length }, ?_, rfl, Nat.le_refl _⟩
  exact List.getLast?_concat

-- The effect of a composition runs once, so a composed screen is left first.
theorem reaches_loaded (s : State) : ∃ t, Reaches step s t ∧ Loaded t ∧ t.rows = s.rows := by
  rcases reaches_composed s with ⟨t, hst, hcomp, hrows⟩
  have hleft : Reaches step t t.left := Reaches.of_step (step_left hcomp)
  have hentered : Reaches step t.left t.left.entered := Reaches.of_step (step_entered rfl)
  have hloaded : Reaches step t.left.entered t.reloaded := Reaches.of_step (step_loaded t)
  refine ⟨t.reloaded, hst.trans ((hleft.trans hentered).trans hloaded), loaded_reloaded t, ?_⟩
  exact hrows

theorem exists_fresh (table : List ScanHistoryEntity) : ∃ bound : Int, ∀ row ∈ table, row.id < bound := by
  induction table with
  | nil => exact ⟨0, by simp⟩
  | cons row table ih =>
    rcases ih with ⟨bound, hbound⟩
    refine ⟨max bound (row.id + 1), ?_⟩
    intro other hother
    rw [List.mem_cons] at hother
    rcases hother with rfl | hother
    . omega
    . have := hbound other hother
      omega

theorem Loaded.inserted (h : Loaded s) {history : ScanHistoryEntity}
    (hmem : history ∈ s.inserting) (hzero : history.id = 0)
    : ∃ t, Reaches step s t ∧ Loaded t ∧ t.rows.Perm s.rows
        ∧ t.inserting.length < s.inserting.length := by
  rcases exists_fresh s.table with ⟨id, hid⟩
  have hfresh : ∀ row ∈ s.table, row.id ≠ id := by
    intro row hrow
    have := hid row hrow
    omega
  refine ⟨_, Reaches.of_step (e := .inserted history id) (if_pos ⟨hmem, hfresh⟩), ?_, ?_, ?_⟩
  . rcases h.live with ⟨c, hc, hlive, hseen⟩
    refine ⟨h.composed, h.effect, c, hc, hlive, ?_⟩
    simp only [List.length_append, List.length_singleton]
    omega
  . exact rows_inserted_perm hmem hzero
  . simp only [List.length_erase_of_mem hmem]
    have := List.length_pos_of_mem hmem
    omega

theorem reaches_drained (h : Kept s) (hloaded : Loaded s)
    : ∃ t, Reaches step s t ∧ Loaded t ∧ t.rows.Perm s.rows ∧ t.inserting = [] := by
  let I : State → Prop := fun t => Kept t ∧ Loaded t ∧ t.rows.Perm s.rows
  have hcloser : ∀ t, I t → ¬ t.inserting = [] →
      ∃ u, Reaches step t u ∧ I u ∧ u.inserting.length < t.inserting.length := by
    intro t ht hbusy
    rcases ht with ⟨hkept, ht, hrows⟩
    rcases List.exists_mem_of_ne_nil _ hbusy with ⟨history, hmem⟩
    rcases ht.inserted hmem (hkept.zero history hmem) with ⟨u, htu, hu, hperm, hlt⟩
    exact ⟨u, htu, ⟨kept_of_reaches hkept htu, hu, hperm.trans hrows⟩, hlt⟩
  have hinit : I s := ⟨h, hloaded, List.Perm.refl _⟩
  rcases reaches_of_closer (P := fun t => t.inserting = []) (fun t => t.inserting.length) hcloser
    hinit with ⟨t, hst, ⟨_, ht, hrows⟩, hdone⟩
  exact ⟨t, hst, ht, hrows, hdone⟩

theorem step_collected {collector : Nat} {c : Collector} {rows : List ScanHistoryEntity}
    (hc : s.collectors[collector]? = some c) (hlive : c.failed = false)
    (hseen : c.seen ≤ s.table.length) (hrows : ScanHistoryDao.GetAll s.table rows)
    : step s (.collected collector s.table.length rows)
        = some (s.deliver collector c s.table.length rows) := by
  simp [step, State.collected, State.deliver, hc, hlive, hseen, hrows]

theorem settled_upToDate (hdone : s.inserting = [])
    (hwrite : s.writes.getLast? = some (.success s.table.length)) (hcomp : s.inComposition = true)
    (heffect : s.loadEffect = ⟨some (), none⟩) : s.upToDate.Settled := by
  have hsame : s.loadEffect.compose () () = s.loadEffect := by
    rw [heffect]
    rfl
  refine ⟨hdone, hwrite, hcomp, rfl, rfl, ?_, ?_⟩
  . simp [State.upToDate, State.historyScreen, hsame]
  . change (s.loadEffect.compose () ()).scheduled = none
    rw [hsame, heffect]

theorem reaches_settled (h : Loaded s) (hdone : s.inserting = [])
    : ∃ t rows, Reaches step s t ∧ t.Settled ∧ t.historyViewModel.historyUiState = .success rows
        ∧ ScanHistoryDao.GetAll s.table rows := by
  rcases exists_orderByDesc ScanHistoryEntity.createdAt s.table with ⟨rows, hrows⟩
  rcases h.live with ⟨c, hc, hlive, hseen⟩
  rw [List.getLast?_eq_getElem?] at hc
  have hdelivered := Reaches.of_step (step_collected hc hlive hseen hrows)
  refine ⟨_, rows, hdelivered.trans (reaches_upToDate h.composed), ?_, rfl, hrows⟩
  refine settled_upToDate hdone ?_ h.composed h.effect
  exact List.getLast?_concat

end

theorem settlesAgain (es : List Event) (s : State) (hexec : exec step init es = some s)
    : ∃ s' rows, Reaches step s s' ∧ s'.Settled
        ∧ s'.historyViewModel.historyUiState = .success rows
        ∧ (rows.map ScanHistoryEntity.withoutId).Perm ((calls es).map Call.row) := by
  have hcalls := rows_exec_perm kept_init hexec
  have hinit : init.rows = [] := rfl
  rw [hinit, List.nil_append] at hcalls
  rcases reaches_loaded s with ⟨t, hst, hloaded, hrows⟩
  rcases reaches_drained (kept_of_reaches (kept_exec hexec) hst) hloaded with
    ⟨u, htu, hu, hperm, hdone⟩
  rcases reaches_settled hu hdone with ⟨s', rows, hus, hsettled, hsuccess, hquery⟩
  refine ⟨s', rows, (hst.trans htu).trans hus, hsettled, hsuccess, ?_⟩
  have htable : u.rows = u.table.map ScanHistoryEntity.withoutId := by simp [State.rows, hdone]
  rw [htable, hrows] at hperm
  exact ((hquery.perm.map _).trans hperm).trans hcalls

-- The first load fails while an insert is in flight.
def failedLoad : List Event :=
  [
    .enterComposition, .runLoadEffect, .storeResult (.qrResult "tel:1" none) .qr 5,
    .failed 0 none, .collectUiState, .recompose
  ]

theorem failedLoad_settlesAgain
    : ∃ s' rows, Reaches step ((exec step init failedLoad).get (by decide)) s' ∧ s'.Settled
        ∧ s'.historyViewModel.historyUiState = .success rows
        ∧ (rows.map ScanHistoryEntity.withoutId).Perm ((calls failedLoad).map Call.row) := by
  apply settlesAgain failedLoad _ (Option.some_get _).symm

end History
end MeeScanner
