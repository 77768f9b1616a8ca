import MeeScanner.History.Lemmas.Step

/-!
This module contains what the compositions of `HistoryScreen` show. The branch is chosen by the
collected state and the list is computed from the state of the view model, which may be ahead of it.
-/

open Transition

namespace MeeScanner
namespace History

-- What a composition collected and the list that it shows, `none` outside of the success branch.
structure Render where
  historyUiState : HistoryUiState
  selectedFilterTab : String
  items : Option (List ScanHistoryEntity)
  deriving DecidableEq, Repr

def State.render (s : State) : Render := ⟨s.historyUiState, s.selectedFilterTab, s.items⟩

def rendered (_ : State) : Event → State → List Render
  | .recompose, s' => [s'.render]
  | .enterComposition, s' => [s'.render]
  | _, _ => []

def RendersRows (r : Render) : Prop :=
  match r.historyUiState with
  | .success rows =>
    r.items
      = some (if r.selectedFilterTab = "ALL" then rows
          else rows.filter fun row => row.scanType = r.selectedFilterTab)
  | _ => True

instance : DecidablePred RendersRows := by
  intro r
  unfold RendersRows
  split <;> infer_instance

def UnderTab (tab : String) (row : ScanHistoryEntity) : Prop := tab = "ALL" ∨ row.scanType = tab

instance (tab : String) : DecidablePred (UnderTab tab) := fun row =>
  inferInstanceAs (Decidable (tab = "ALL" ∨ row.scanType = tab))

def HoldsUnder (tab : String) (rows : List ScanHistoryEntity) : HistoryUiState → Prop
  | .success history => history.filter (UnderTab tab) = rows.filter (UnderTab tab)
  | _ => ∀ row ∈ rows, ¬ UnderTab tab row

-- A recomposition that collected a success finds the view model with the same rows under the tab.
def RecomposesCurrent (s : State) : Event → Prop
  | .recompose => ∀ rows, s.historyUiState = .success rows →
      HoldsUnder s.selectedFilterTab rows s.historyViewModel.historyUiState
  | _ => True

section

variable {s s' : State} {e : Event}

theorem filter_underTab (tab : String) (rows : List ScanHistoryEntity)
    : rows.filter (UnderTab tab)
        =
      if tab = "ALL" then rows else rows.filter fun row => row.scanType = tab := by
  split
  . next htab => simp [UnderTab, htab]
  . next htab => simp [UnderTab, htab]

theorem filteredHistory_eq_iff (historyUiState : HistoryUiState) (tab : String)
    (rows : List ScanHistoryEntity)
    : HistoryScreen.filteredHistory historyUiState tab = rows.filter (UnderTab tab)
        ↔
      HoldsUnder tab rows historyUiState := by
  cases historyUiState with
  | success history =>
    simp only [HistoryScreen.filteredHistory, HoldsUnder]
    rw [filter_underTab tab history]
  | loading =>
    simp only [HistoryScreen.filteredHistory, HoldsUnder]
    rw [eq_comm, List.filter_eq_nil_iff]
    simp
  | error message =>
    simp only [HistoryScreen.filteredHistory, HoldsUnder]
    rw [eq_comm, List.filter_eq_nil_iff]
    simp

theorem rendersRows_historyScreen
    : RendersRows s.historyScreen.render
        ↔
      ∀ rows, s.historyUiState = .success rows →
        HoldsUnder s.selectedFilterTab rows s.historyViewModel.historyUiState := by
  cases hcollected : s.historyUiState with
  | success rows =>
    simp only [RendersRows, State.render, State.historyScreen, hcollected, Option.some.injEq]
    rw [← filter_underTab, filteredHistory_eq_iff]
    simp
  | loading => simp [RendersRows, State.render, State.historyScreen, hcollected]
  | error message => simp [RendersRows, State.render, State.historyScreen, hcollected]

theorem rendersRows_iff (hs : Step s e s')
    : (∀ r ∈ rendered s e s', RendersRows r) ↔ RecomposesCurrent s e := by
  cases hs with
  | recompose =>
    simp only [rendered, List.forall_mem_singleton, RecomposesCurrent]
    exact rendersRows_historyScreen
  | enterComposition =>
    simp only [rendered, List.forall_mem_singleton, RecomposesCurrent, iff_true]
    rw [rendersRows_historyScreen]
    intro rows hrows
    simp only at hrows ⊢
    rw [hrows]
    rfl
  | _ => simp [rendered, RecomposesCurrent]

end

theorem rendersRows_always_iff (es : List Event)
    : Always (logged step rendered) (fun p => ∀ r ∈ p.2, RendersRows r) (init, []) es
        ↔
      Meets step RecomposesCurrent init es := by
  apply always_shown_iff_meets (I := fun _ => True)
  . intro s e s' _ _
    trivial
  . intro s e s' _ hs'
    exact rendersRows_iff (Step.of_step hs')
  . trivial

/-
The second visit loads again and a tab is selected before the copy has seen the loading state: the
composition shows a success with an empty list.
-/
def loadsAgain : List Event :=
  let row := ScanHistoryUseCase.saveHistory (.qrResult "upi://pay" none) .qr 1
  [
    .storeResult (.qrResult "upi://pay" none) .qr 1, .inserted row 1, .enterComposition,
    .runLoadEffect, .collected 0 1 [{ row with id := 1 }], .leaveComposition, .enterComposition,
    .runLoadEffect, .tabSelected "QR", .collectFilterTab, .recompose
  ]

theorem loadsAgain_shows_nothing
    : ¬ Always (logged step rendered) (fun p => ∀ r ∈ p.2, RendersRows r) (init, [])
        loadsAgain := by
  apply not_always_of_any
  decide

end History
end MeeScanner
