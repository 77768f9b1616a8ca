import MeeScanner.Document.Lemmas.Launch
import MeeScanner.Rest

/-!
This module contains what the document scanner of Home does on its own. An effect that finds no
activity turns the flag off and so causes a composition and an effect of its own, but no more.
-/

open Compose Transition

namespace MeeScanner
namespace Document

def Event.internal : Event → Bool
  | .collectOpenScanner => true
  | .recompose => true
  | .runScannerEffect => true
  | _ => false

def internalStep : State → Event → Option State := restrict step Event.internal

-- A flag that is on can be turned off, the copy of it is behind then.
def State.unrest (s : State) : Nat :=
  (if s.documentViewModel.openScanner then 3 else 0)
    + behind 3 s.trigger s.documentViewModel.openScanner
    + s.scannerEffect.due (some s.trigger)

def State.untouched (s : State) : Bool × Nat × List ScanResult :=
  (s.inComposition, s.activities, s.scans)

section

variable {s s' : State} {e : Event}

theorem unrest_bound (s : State) : s.unrest ≤ 9 := by
  have hcopy : behind 3 s.trigger s.documentViewModel.openScanner ≤ 3 := behind_le
  have hdue := LaunchedEffect.due_bound (some s.trigger) s.scannerEffect
  unfold State.unrest
  split <;> omega

theorem unrest_onError (s : State) (message : String) : (s.onError message).unrest ≤ s.unrest := by
  have hcopy : behind 3 s.trigger false ≤ 3 := behind_le
  change 0 + behind 3 s.trigger false + s.scannerEffect.due (some s.trigger) ≤ _
  unfold State.unrest
  cases s.documentViewModel.openScanner with
  | false => simp
  | true =>
    simp only [↓reduceIte]
    omega

theorem unrest_step (h : internalStep s e = some s') : s' = s ∨ s'.unrest < s.unrest := by
  rcases restrict_eq_some_iff.mp h with ⟨hinternal, hs⟩
  have hran : ∀ launch, s.scannerEffect.scheduled = some launch →
      State.unrest { s with scannerEffect := s.scannerEffect.ran } < s.unrest := by
    intro launch hscheduled
    exact Nat.add_lt_add_left (LaunchedEffect.due_ran hscheduled (some s.trigger)) _
  cases Step.of_step hs with
  | collected =>
    by_cases hsame : s.trigger = s.documentViewModel.openScanner
    . rw [← hsame]
      exact Or.inl rfl
    . apply Or.inr
      have hdue := s.scannerEffect.due_le (some s.documentViewModel.openScanner) (some s.trigger)
      unfold State.unrest
      rw [behind_of_ne hsame, behind_self]
      dsimp only
      omega
  | recomposed =>
    rcases s.scannerEffect.due_compose s.trigger (Launch.mk s.trigger s.hasActivity) with
      hsame | hlt
    . apply Or.inl
      unfold State.documentScanner
      rw [hsame]
    . exact Or.inr (Nat.add_lt_add_left hlt _)
  | ranOff launch hscheduled => exact Or.inr (hran launch hscheduled)
  | ranWithoutActivity launch hscheduled =>
    exact Or.inr (Nat.lt_of_le_of_lt (unrest_onError _ _) (hran launch hscheduled))
  | requested launch hscheduled => exact Or.inr (hran launch hscheduled)
  | _ => contradiction

theorem untouched_internal (h : internalStep s e = some s') : s'.untouched = s.untouched := by
  rcases restrict_eq_some_iff.mp h with ⟨hinternal, hs⟩
  cases Step.of_step hs with
  | collected => rfl
  | recomposed => rfl
  | ranOff => rfl
  | ranWithoutActivity => rfl
  | requested => rfl
  | _ => contradiction

theorem scheduled_of_quiet (hquiet : Quiet internalStep s)
    : s.scannerEffect.scheduled = none := by
  apply hquiet.eq_none (·.scannerEffect.scheduled) .runScannerEffect rfl
  intro trigger hscheduled
  simp only [step, State.runScannerEffect, hscheduled]
  split
  . split
    . exact ⟨_, rfl, rfl⟩
    . exact ⟨_, rfl, rfl⟩
  . exact ⟨_, rfl, rfl⟩

theorem settled_of_quiet (hcomp : s.inComposition = true) (hquiet : Quiet internalStep s)
    : s.Settled := by
  refine ⟨hcomp, ?_, ?_, scheduled_of_quiet hquiet⟩
  . have htrigger := hquiet.eq .collectOpenScanner rfl (if_pos hcomp)
    exact (congrArg State.trigger htrigger).symm
  . exact hquiet.eq .recompose rfl (if_pos hcomp)

end

/--
However the collector, the compositions and the effect of the scanner follow each other, at most
nine of them change anything, and from where they are they can settle Home without a scanner that
opens or a scan.
-/
theorem scannerComesToRest (s s' : State) (es : List Event) (hcomp : s.inComposition = true)
    (hexec : exec internalStep s es = some s')
    : changes internalStep s es ≤ 9
        ∧ ∃ t, Reaches internalStep s' t ∧ Quiet internalStep t ∧ t.Settled
            ∧ t.activities = s.activities ∧ t.scans = s.scans := by
  rcases rests_of_measure State.untouched (fun _ _ _ h => unrest_step h)
    (fun _ _ _ h => untouched_internal h) hexec with ⟨hchanges, t, hreaches, hquiet, hsame⟩
  refine ⟨Nat.le_trans hchanges (unrest_bound s), t, hreaches, hquiet, ?_, ?_, ?_⟩
  . apply settled_of_quiet _ hquiet
    rw [← hcomp]
    exact congrArg (·.1) hsame
  . exact congrArg (·.2.1) hsame
  . exact congrArg (·.2.2) hsame

-- A tap without an activity: the effect reports an error.
def tappedWithoutActivity : State :=
  (exec step init [.enterComposition false, .runScannerEffect, .documentTabTapped,
    .collectOpenScanner]).get (by decide)

def noActivity : List Event :=
  [.recompose, .collectOpenScanner, .runScannerEffect, .recompose, .collectOpenScanner, .recompose]

theorem tappedWithoutActivity_comesToRest
    : changes internalStep tappedWithoutActivity noActivity ≤ 9
        ∧ ∃ t, Reaches internalStep
              ((exec internalStep tappedWithoutActivity noActivity).get (by decide)) t
            ∧ Quiet internalStep t ∧ t.Settled
            ∧ t.activities = tappedWithoutActivity.activities
            ∧ t.scans = tappedWithoutActivity.scans := by
  apply scannerComesToRest tappedWithoutActivity _ noActivity
  . decide
  . exact (Option.some_get _).symm

end Document
end MeeScanner
