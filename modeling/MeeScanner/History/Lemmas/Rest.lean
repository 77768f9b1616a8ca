import MeeScanner.History.Lemmas.Refine
import MeeScanner.Rest

/-!
This module contains what the history screen does on its own. The load that it starts writes the
state that it collects, once for each composition.
-/

open Compose Transition

namespace MeeScanner
namespace History

def Event.internal : Event → Bool
  | .collectFilterTab => true
  | .collectUiState => true
  | .recompose => true
  | .runLoadEffect => true
  | _ => false

def internalStep : State → Event → Option State := restrict step Event.internal

namespace State

-- A load weighs more than the copy and the items that its write leaves behind.
def unrest (s : State) : Nat :=
  4 * s.loadEffect.due (some ())
    + behind 2 s.selectedFilterTab s.historyViewModel.selectedFilterTab
    + behind 2 s.historyUiState s.historyViewModel.historyUiState
    + behind 1 s.items s.historyScreen.items

def untouched (s : State) : Bool × List ScanHistoryEntity × List ScanHistoryEntity :=
  (s.inComposition, s.inserting, s.table)

end State

section

variable {s s' : State} {e : Event}

theorem unrest_bound (s : State) : s.unrest ≤ 17 := by
  have hdue := LaunchedEffect.due_bound (some ()) s.loadEffect
  have htab : behind 2 s.selectedFilterTab s.historyViewModel.selectedFilterTab ≤ 2 := behind_le
  have hui : behind 2 s.historyUiState s.historyViewModel.historyUiState ≤ 2 := behind_le
  have hitems : behind 1 s.items s.historyScreen.items ≤ 1 := behind_le
  unfold State.unrest
  omega

theorem unrest_historyScreen (s : State)
    : s.historyScreen = s ∨ s.historyScreen.unrest < s.unrest := by
  have hitems : s.historyScreen.historyScreen.items = s.historyScreen.items := rfl
  have hload := s.loadEffect.due_compose () ()
  change s.historyScreen.loadEffect = s.loadEffect
    ∨ s.historyScreen.loadEffect.due (some ()) < s.loadEffect.due (some ()) at hload
  by_cases hfresh : s.items = s.historyScreen.items
  . rcases hload with hsame | hlt
    . apply Or.inl
      calc
        s.historyScreen
          = { s with loadEffect := s.historyScreen.loadEffect, items := s.historyScreen.items } :=
          rfl
        _ = s := by rw [hsame, ← hfresh]
    . apply Or.inr
      unfold State.unrest
      rw [hitems, behind_self]
      change 4 * _ + behind 2 s.selectedFilterTab s.historyViewModel.selectedFilterTab
        + behind 2 s.historyUiState s.historyViewModel.historyUiState + 0 < _
      omega
  . apply Or.inr
    have hle : s.historyScreen.loadEffect.due (some ()) ≤ s.loadEffect.due (some ()) := by
      rcases hload with hsame | hlt
      . rw [hsame]
      . exact Nat.le_of_lt hlt
    unfold State.unrest
    rw [hitems, behind_self, behind_of_ne hfresh]
    change 4 * _ + behind 2 s.selectedFilterTab s.historyViewModel.selectedFilterTab
      + behind 2 s.historyUiState s.historyViewModel.historyUiState + 0 < _
    omega

-- Whatever the list is made of, it counts one at most.
theorem unrest_lt_of_rest
    (hlt : 4 * s'.loadEffect.due (some ())
        + behind 2 s'.selectedFilterTab s'.historyViewModel.selectedFilterTab
        + behind 2 s'.historyUiState s'.historyViewModel.historyUiState + 1
      < 4 * s.loadEffect.due (some ())
        + behind 2 s.selectedFilterTab s.historyViewModel.selectedFilterTab
        + behind 2 s.historyUiState s.historyViewModel.historyUiState)
    : s'.unrest < s.unrest := by
  have hitems : behind 1 s'.items s'.historyScreen.items ≤ 1 := behind_le
  unfold State.unrest
  omega

theorem unrest_loadHistory (hscheduled : s.loadEffect.scheduled = some ())
    : State.unrest (State.loadHistory { s with loadEffect := s.loadEffect.ran }) < s.unrest := by
  have hdue := LaunchedEffect.due_ran hscheduled (some ())
  have hui : behind 2 s.historyUiState .loading ≤ 2 := behind_le
  apply unrest_lt_of_rest
  change 4 * s.loadEffect.ran.due (some ())
    + behind 2 s.selectedFilterTab s.historyViewModel.selectedFilterTab
    + behind 2 s.historyUiState .loading + 1 < _
  omega

theorem unrest_step (h : internalStep s e = some s') : s' = s ∨ s'.unrest < s.unrest := by
  rcases restrict_eq_some_iff.mp h with ⟨hinternal, hs⟩
  cases Step.of_step hs with
  | collectFilterTab =>
    by_cases hsame : s.selectedFilterTab = s.historyViewModel.selectedFilterTab
    . rw [← hsame]
      exact Or.inl rfl
    . apply Or.inr
      apply unrest_lt_of_rest
      rw [behind_of_ne hsame, behind_self]
      dsimp only
      omega
  | collectUiState =>
    by_cases hsame : s.historyUiState = s.historyViewModel.historyUiState
    . rw [← hsame]
      exact Or.inl rfl
    . apply Or.inr
      apply unrest_lt_of_rest
      rw [behind_of_ne hsame, behind_self]
      dsimp only
      omega
  | recompose => exact unrest_historyScreen s
  | loaded hscheduled => exact Or.inr (unrest_loadHistory hscheduled)
  | _ => contradiction

theorem untouched_internal (h : internalStep s e = some s') : s'.untouched = s.untouched := by
  rcases restrict_eq_some_iff.mp h with ⟨hinternal, hs⟩
  cases Step.of_step hs with
  | collectFilterTab => rfl
  | collectUiState => rfl
  | recompose => rfl
  | loaded => rfl
  | _ => contradiction

-- What is left to do for a settled list is up to the database.
theorem settled_iff_of_quiet (hcomp : s.inComposition = true) (hquiet : Quiet internalStep s)
    : s.Settled ↔ s.inserting = [] ∧ s.writes.getLast? = some (.success s.table.length) := by
  constructor
  . intro h
    exact ⟨h.1, h.2.1⟩
  . intro h
    refine ⟨h.1, h.2, hcomp, ?_, ?_, ?_, ?_⟩
    . have htab := hquiet.eq .collectFilterTab rfl (if_pos hcomp)
      exact (congrArg State.selectedFilterTab htab).symm
    . have hui := hquiet.eq .collectUiState rfl (if_pos hcomp)
      exact (congrArg State.historyUiState hui).symm
    . exact hquiet.eq .recompose rfl (if_pos hcomp)
    . apply hquiet.eq_none (·.loadEffect.scheduled) .runLoadEffect rfl
      intro launch hscheduled
      refine ⟨State.loadHistory { s with loadEffect := s.loadEffect.ran }, ?_, rfl⟩
      simp [step, State.runLoadEffect, hscheduled]

end

/--
However the collectors, the compositions and the load of the history screen follow each other, at
most seventeen of them change anything. From where they are they can bring the screen to rest with
the rows untouched, and it is settled then as soon as every row is inserted and was delivered.
-/
theorem historyComesToRest (s s' : State) (es : List Event) (hcomp : s.inComposition = true)
    (hexec : exec internalStep s es = some s')
    : changes internalStep s es ≤ 17
        ∧ ∃ t, Reaches internalStep s' t ∧ Quiet internalStep t
            ∧ (t.Settled ↔ t.inserting = []
                ∧ t.writes.getLast? = some (.success t.table.length))
            ∧ t.inserting = s.inserting ∧ t.table = s.table := by
  rcases rests_of_measure State.untouched (fun _ _ _ h => unrest_step h)
    (fun _ _ _ h => untouched_internal h) hexec with ⟨hchanges, t, hreaches, hquiet, hsame⟩
  refine ⟨Nat.le_trans hchanges (unrest_bound s), t, hreaches, hquiet, ?_, ?_, ?_⟩
  . apply settled_iff_of_quiet _ hquiet
    rw [← hcomp]
    exact congrArg (·.1) hsame
  . exact congrArg (·.2.1) hsame
  . exact congrArg (·.2.2) hsame

-- The screen is entered while it still shows an error, a row is on its way.
def enteredAfterError : State :=
  (exec step init [.enterComposition, .runLoadEffect, .failed 0 none, .leaveComposition,
    .storeResult (.qrResult "tel:1" none) .qr 5, .enterComposition]).get (by decide)

def loadsLate : List Event :=
  [.collectUiState, .recompose, .runLoadEffect, .recompose, .collectUiState, .collectFilterTab]

theorem enteredAfterError_comesToRest
    : changes internalStep enteredAfterError loadsLate ≤ 17
        ∧ ∃ t, Reaches internalStep
              ((exec internalStep enteredAfterError loadsLate).get (by decide)) t
            ∧ Quiet internalStep t
            ∧ (t.Settled ↔ t.inserting = []
                ∧ t.writes.getLast? = some (.success t.table.length))
            ∧ t.inserting = enteredAfterError.inserting ∧ t.table = enteredAfterError.table := by
  apply historyComesToRest enteredAfterError _ loadsLate
  . decide
  . exact (Option.some_get _).symm

end History
end MeeScanner
