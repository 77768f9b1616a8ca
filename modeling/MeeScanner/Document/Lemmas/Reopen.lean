import MeeScanner.Document.Lemmas.Launch
import MeeScanner.Reaches

/-!
This module contains the way back to a document scanner that opens. A start that got lost leaves the
flag on with nothing outstanding: the effect of a new composition starts the scanner again, and once
every start is answered the next tap opens exactly one scanner.
-/

open Compose Transition

namespace MeeScanner
namespace Document

namespace State

def left (s : State) : State := { s with inComposition := false, scannerEffect := .absent }

def entered (s : State) : State :=
  {
    s with
    inComposition := true
    hasActivity := true
    trigger := s.documentViewModel.openScanner
  }.documentScanner

-- Home has entered anew and its effect has run, a flag that is on started the scanner again.
def restarted (s : State) : State :=
  {
    s with
    inComposition := true
    hasActivity := true
    trigger := s.documentViewModel.openScanner
    scannerEffect := ⟨some s.documentViewModel.openScanner, none⟩
    requests := if s.documentViewModel.openScanner then s.requests + 1 else s.requests
  }

def caughtUp (s : State) : State :=
  { s with trigger := false, scannerEffect := ⟨some false, none⟩ }

end State

-- The composition has an activity to launch from, its effect has run, and a flag that is on has a
-- start outstanding.
structure Restarted (s : State) : Prop where
  composed : s.inComposition = true ∧ s.hasActivity = true
  effectRan : s.scannerEffect.scheduled = none
  started : s.documentViewModel.openScanner = true → s.outstanding ≠ 0

section

variable {s : State}

theorem step_left (hcomp : s.inComposition = true) : step s .leaveComposition = some s.left := by
  exact if_pos hcomp

theorem step_entered (hcomp : s.inComposition = false)
    : step s (.enterComposition true) = some s.entered := by
  simp only [step, State.enterComposition, hcomp, Bool.false_eq_true, ↓reduceIte, State.entered]

theorem reaches_left (s : State) : ∃ t, Reaches step s t ∧ t.inComposition = false
    ∧ t.scannerEffect = .absent := by
  cases hcomp : s.inComposition with
  | true => exact ⟨s.left, Reaches.of_step (step_left hcomp), rfl, rfl⟩
  | false =>
    have hentered : Reaches step s s.entered := Reaches.of_step (step_entered hcomp)
    exact ⟨s.entered.left, hentered.trans (Reaches.of_step (step_left rfl)), rfl, rfl⟩

theorem entered_of_absent (habsent : s.scannerEffect = .absent)
    : s.entered.scannerEffect
        = ⟨some s.documentViewModel.openScanner, some ⟨s.documentViewModel.openScanner, true⟩⟩ := by
  simp only [State.entered, State.documentScanner, habsent]
  exact LaunchedEffect.compose_other (by simp) _

theorem step_ran (habsent : s.scannerEffect = .absent)
    : step s.entered .runScannerEffect = some s.restarted := by
  have heffect := entered_of_absent habsent
  simp only [step, State.runScannerEffect, heffect]
  cases hflag : s.documentViewModel.openScanner with
  | true => simp [State.entered, State.documentScanner, State.restarted, LaunchedEffect.ran, hflag,
      habsent]
  | false => simp [State.entered, State.documentScanner, State.restarted, LaunchedEffect.ran, hflag,
      habsent]

theorem restarted_restarted (s : State) : Restarted s.restarted := by
  refine ⟨⟨rfl, rfl⟩, rfl, ?_⟩
  intro hon
  change s.documentViewModel.openScanner = true at hon
  simp [State.outstanding, State.restarted, hon]

theorem reaches_restarted (s : State) : ∃ t, Reaches step s t ∧ Restarted t := by
  rcases reaches_left s with ⟨t, hst, hcomp, habsent⟩
  have hentered := hst.trans (Reaches.of_step (step_entered hcomp))
  exact ⟨t.restarted, hentered.trans (Reaches.of_step (step_ran habsent)), restarted_restarted t⟩

theorem restarted_onError (hcomp : s.inComposition = true ∧ s.hasActivity = true)
    (hran : s.scannerEffect.scheduled = none) (message : String)
    : Restarted (s.onError message) := by
  constructor
  . exact hcomp
  . exact hran
  . simp [State.onError, DocumentViewModel.onScanError]

theorem Restarted.answered (h : Restarted s) (hbusy : s.outstanding ≠ 0)
    : ∃ t, Reaches step s t ∧ Restarted t ∧ t.outstanding < s.outstanding := by
  unfold State.outstanding at hbusy
  by_cases hrequest : 0 < s.requests
  . refine ⟨State.onError { s with requests := s.requests - 1 } "Scanner failed to start", ?_, ?_, ?_⟩
    . apply Reaches.of_step (e := .startIntentFailure none)
      simp [step, State.startIntentFailure, hrequest]
    . apply restarted_onError
      . exact h.composed
      . exact h.effectRan
    . simp only [State.outstanding, State.onError]
      omega
  . have hactivity : 0 < s.activities := by omega
    refine ⟨State.onError { s with activities := s.activities - 1 } "User cancelled scan", ?_, ?_, ?_⟩
    . apply Reaches.of_step (e := .activityResult 0 none)
      simp [step, State.activityResult, h.composed.1, hactivity, resultOk]
    . apply restarted_onError
      . exact h.composed
      . exact h.effectRan
    . simp only [State.outstanding, State.onError]
      omega

theorem reaches_quiet (s : State)
    : ∃ t, Reaches step s t ∧ Restarted t ∧ t.outstanding = 0 := by
  rcases reaches_restarted s with ⟨t, hst, ht⟩
  have hcloser : ∀ u, Restarted u → ¬ u.outstanding = 0 →
      ∃ v, Reaches step u v ∧ Restarted v ∧ v.outstanding < u.outstanding := by
    intro u hu hbusy
    exact hu.answered hbusy
  rcases reaches_of_closer (P := fun u => u.outstanding = 0) State.outstanding hcloser ht
    with ⟨u, htu, hu, hquiet⟩
  exact ⟨u, hst.trans htu, hu, hquiet⟩

theorem reaches_caughtUp (h : Restarted s) (hoff : s.documentViewModel.openScanner = false)
    : Reaches step s s.caughtUp := by
  have hcollected : Reaches step s (State.documentScanner { s with trigger := false }) := by
    apply Reaches.of_exec [.collectOpenScanner, .recompose]
    simp [step, h.composed.1, hoff]
  apply hcollected.trans
  by_cases hkey : s.scannerEffect.key = some false
  . have heffect : s.scannerEffect = ⟨some false, none⟩ := by
      rw [← hkey, ← h.effectRan]
    have hsame : State.documentScanner { s with trigger := false } = s.caughtUp := by
      simp [State.documentScanner, State.caughtUp, heffect, LaunchedEffect.compose]
    rw [hsame]
    exact Reaches.refl _
  . apply Reaches.of_step (e := .runScannerEffect)
    simp [step, State.runScannerEffect, State.documentScanner, State.caughtUp,
      LaunchedEffect.compose_other hkey, LaunchedEffect.ran]

theorem reaches_settled (h : Restarted s) (hquiet : s.outstanding = 0)
    : ∃ t, Reaches step s t ∧ t.Settled ∧ Restarted t ∧ t.outstanding = 0
        ∧ t.documentViewModel.openScanner = false := by
  have hoff : s.documentViewModel.openScanner = false := by
    cases hflag : s.documentViewModel.openScanner with
    | false => rfl
    | true => exact absurd hquiet (h.started hflag)
  exact ⟨s.caughtUp, reaches_caughtUp h hoff, ⟨h.composed.1, hoff.symm, rfl, rfl⟩,
    ⟨h.composed, rfl, h.started⟩, hquiet, hoff⟩

end

end Document
end MeeScanner
