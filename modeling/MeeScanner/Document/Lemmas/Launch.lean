import MeeScanner.Document.Impl

/-!
This module contains the launch protocol of the document scanner. `openScanner` outlives the
composition, the effect that starts the scanner does not: a composition that keeps up with the flag
goes through the phases idle, ahead, scheduled and launched, one start for each time the flag turns
on.
-/

open Compose Transition

namespace MeeScanner
namespace Document

inductive Step (s : State) : Event → State → Prop where
  | tapped (hcomp : s.inComposition)
    : Step s .documentTabTapped
        { s with documentViewModel := s.documentViewModel.onDocumentTabTapped }
  | collected (hcomp : s.inComposition)
    : Step s .collectOpenScanner { s with trigger := s.documentViewModel.openScanner }
  | recomposed (hcomp : s.inComposition) : Step s .recompose s.documentScanner
  | ranOff (launch : Launch) (hscheduled : s.scannerEffect.scheduled = some launch)
    (htrigger : launch.trigger = false)
    : Step s .runScannerEffect { s with scannerEffect := s.scannerEffect.ran }
  | ranWithoutActivity (launch : Launch) (hscheduled : s.scannerEffect.scheduled = some launch)
    (htrigger : launch.trigger = true) (hactivity : launch.hasActivity = false)
    : Step s .runScannerEffect
        (State.onError { s with scannerEffect := s.scannerEffect.ran } "Cannot open scanner")
  | requested (launch : Launch) (hscheduled : s.scannerEffect.scheduled = some launch)
    (htrigger : launch.trigger = true) (hactivity : launch.hasActivity = true)
    : Step s .runScannerEffect
        { s with scannerEffect := s.scannerEffect.ran, requests := s.requests + 1 }
  | started (hrequest : 0 < s.requests)
    : Step s .startIntentSuccess
        { s with requests := s.requests - 1, activities := s.activities + 1 }
  | refused (message : Option String) (hrequest : 0 < s.requests)
    : Step s (.startIntentFailure message)
        (State.onError { s with requests := s.requests - 1 }
          (message.getD "Scanner failed to start"))
  | cancelled (resultCode : Int) (data : Option GmsDocumentScanningResult)
    (hcomp : s.inComposition) (hactivity : 0 < s.activities) (hcode : resultCode ≠ resultOk)
    : Step s (.activityResult resultCode data)
        (State.onError { s with activities := s.activities - 1 } "User cancelled scan")
  | returnedNoData (hcomp : s.inComposition) (hactivity : 0 < s.activities)
    : Step s (.activityResult resultOk none)
        (State.onError { s with activities := s.activities - 1 } "Scan returned no data")
  | scanned (gmsResult : GmsDocumentScanningResult) (hcomp : s.inComposition)
    (hactivity : 0 < s.activities)
    : Step s (.activityResult resultOk (some gmsResult))
        (State.onResult { s with activities := s.activities - 1 } (scanResult gmsResult))
  | entered (hasActivity : Bool) (hcomp : s.inComposition = false)
    : Step s (.enterComposition hasActivity)
        {
          s with
          inComposition := true
          hasActivity := hasActivity
          trigger := s.documentViewModel.openScanner
        }.documentScanner
  | left (hcomp : s.inComposition)
    : Step s .leaveComposition { s with inComposition := false, scannerEffect := .absent }

variable {s s' : State} {e : Event}

theorem Step.of_runScannerEffect (h : s.runScannerEffect = some s')
    : Step s .runScannerEffect s' := by
  unfold State.runScannerEffect at h
  split at h
  . contradiction
  . next launch hscheduled =>
    dsimp only at h
    split at h
    . next htrigger =>
      split at h
      . next hactivity =>
        injection h with h
        subst h
        apply Step.requested launch hscheduled htrigger hactivity
      . next hactivity =>
        injection h with h
        subst h
        apply Step.ranWithoutActivity launch hscheduled htrigger
        simpa using hactivity
    . next htrigger =>
      injection h with h
      subst h
      apply Step.ranOff launch hscheduled
      simpa using htrigger

theorem Step.of_activityResult {resultCode : Int} {data : Option GmsDocumentScanningResult}
    (h : s.activityResult resultCode data = some s')
    : Step s (.activityResult resultCode data) s' := by
  unfold State.activityResult at h
  split at h
  . next hpending =>
    rcases hpending with ⟨hcomp, hactivity⟩
    dsimp only at h
    split at h
    . next hcode =>
      injection h with h
      subst h
      apply Step.cancelled resultCode data hcomp hactivity hcode
    . next hcode =>
      have hcode : resultCode = resultOk := by simpa using hcode
      subst hcode
      cases data with
      | none =>
        injection h with h
        subst h
        apply Step.returnedNoData hcomp hactivity
      | some gmsResult =>
        injection h with h
        subst h
        apply Step.scanned gmsResult hcomp hactivity
  . contradiction

theorem Step.of_step (h : step s e = some s') : Step s e s' := by
  cases e with
  | documentTabTapped =>
    simp only [step, Option.ite_none_right_eq_some, Option.some.injEq] at h
    exact h.2 ▸ .tapped h.1
  | collectOpenScanner =>
    simp only [step, Option.ite_none_right_eq_some, Option.some.injEq] at h
    exact h.2 ▸ .collected h.1
  | recompose =>
    simp only [step, Option.ite_none_right_eq_some, Option.some.injEq] at h
    exact h.2 ▸ .recomposed h.1
  | runScannerEffect => apply Step.of_runScannerEffect h
  | startIntentSuccess =>
    simp only [step, State.startIntentSuccess, Option.ite_none_right_eq_some,
      Option.some.injEq] at h
    exact h.2 ▸ .started h.1
  | startIntentFailure message =>
    simp only [step, State.startIntentFailure, Option.ite_none_right_eq_some,
      Option.some.injEq] at h
    exact h.2 ▸ .refused message h.1
  | activityResult resultCode data => apply Step.of_activityResult h
  | enterComposition hasActivity =>
    simp only [step, State.enterComposition, Option.ite_none_left_eq_some, Bool.not_eq_true,
      Option.some.injEq] at h
    exact h.2 ▸ .entered hasActivity h.1
  | leaveComposition =>
    simp only [step, State.leaveComposition, Option.ite_none_right_eq_some,
      Option.some.injEq] at h
    exact h.2 ▸ .left h.1

namespace State

-- Home is composed, up to date with the view model, and the effect has run.
def Settled (s : State) : Prop :=
  s.inComposition = true
    ∧ s.trigger = s.documentViewModel.openScanner
    ∧ s.documentScanner = s
    ∧ s.scannerEffect.scheduled = none

instance (s : State) : Decidable s.Settled := by
  unfold Settled
  infer_instance

end State

def LaunchProtocol (s : State) : Prop :=
  s.outstanding ≤ 1
    ∧ (s.Settled → (s.documentViewModel.openScanner = true ↔ s.outstanding = 1))

instance : DecidablePred LaunchProtocol := by
  intro s
  unfold LaunchProtocol
  infer_instance

/-
The composition sees the flag off between two times it is on: a tap or a collection turns it on only
where the effect was last keyed off, or will be by the next composition. Home is entered with the
flag on only while no start is outstanding.
-/
def SeesFlagOff (s : State) : Event → Prop
  | .documentTabTapped =>
    s.documentViewModel.openScanner = true ∨ s.scannerEffect.key ≠ some true ∨ s.trigger = false
  | .collectOpenScanner =>
    s.documentViewModel.openScanner = true → s.scannerEffect.key ≠ some true ∨ s.trigger = true
  | .enterComposition _ => s.documentViewModel.openScanner = true → s.outstanding = 0
  | _ => True

instance (s : State) (e : Event) : Decidable (SeesFlagOff s e) := by
  unfold SeesFlagOff
  split <;> infer_instance

inductive Phase (s : State) : Prop where
  | away (hcomp : s.inComposition = false) (hout : s.outstanding ≤ 1)
    (hoff : s.documentViewModel.openScanner = false → s.outstanding = 0)
    (heffect : s.scannerEffect = .absent)
  | idle (hcomp : s.inComposition = true) (hoff : s.documentViewModel.openScanner = false)
    (hout : s.outstanding = 0)
    (hquiet : ∀ launch, s.scannerEffect.scheduled = some launch → launch.trigger = false)
    (hseen : s.trigger = true → s.scannerEffect.key = some true)
  | ahead (hcomp : s.inComposition = true) (hon : s.documentViewModel.openScanner = true)
    (hout : s.outstanding = 0)
    (hquiet : ∀ launch, s.scannerEffect.scheduled = some launch → launch.trigger = false)
    (hahead : s.scannerEffect.key ≠ some true ∨ s.trigger = false)
  | scheduled (hcomp : s.inComposition = true) (hon : s.documentViewModel.openScanner = true)
    (hout : s.outstanding = 0) (htrigger : s.trigger = true) (hasActivity : Bool)
    (heffect : s.scannerEffect = ⟨some true, some ⟨true, hasActivity⟩⟩)
  | launched (hcomp : s.inComposition = true) (hon : s.documentViewModel.openScanner = true)
    (hout : s.outstanding = 1) (htrigger : s.trigger = true)
    (heffect : s.scannerEffect = ⟨some true, none⟩)

theorem phase_init : Phase init := by
  apply Phase.away
  . rfl
  . simp [init, State.outstanding]
  . intro _
    rfl
  . rfl

section

theorem key_of_settled (h : s.Settled) : s.scannerEffect.key = some s.trigger := by
  have hsame : s.documentScanner.scannerEffect = s.scannerEffect := by
    rw [h.2.2.1]
  exact LaunchedEffect.compose_eq_self_iff.mp hsame

theorem Phase.launchProtocol (h : Phase s) : LaunchProtocol s := by
  cases h with
  | away hcomp hout =>
    refine ⟨hout, ?_⟩
    intro hsettled
    rw [hsettled.1] at hcomp
    contradiction
  | idle hcomp hoff hout =>
    simp [LaunchProtocol, hoff, hout]
  | ahead hcomp hon hout hquiet hahead =>
    refine ⟨by omega, ?_⟩
    intro hsettled
    have hkey := key_of_settled hsettled
    have htrigger := hsettled.2.1
    rw [hon] at htrigger
    rw [htrigger] at hkey hahead
    simp [hkey] at hahead
  | scheduled _ _ hout _ _ heffect =>
    refine ⟨by omega, ?_⟩
    intro hsettled
    have := hsettled.2.2.2
    rw [heffect] at this
    contradiction
  | launched hcomp hon hout =>
    simp [LaunchProtocol, hon, hout]

theorem Phase.answered (h : Phase s) (hcomp : s'.inComposition = s.inComposition)
    (heffect : s'.scannerEffect = s.scannerEffect)
    (hoff : s'.documentViewModel.openScanner = false)
    (hout : s'.outstanding + 1 = s.outstanding) : Phase s' := by
  cases h with
  | away haway hone _ habsent =>
    apply Phase.away
    . rw [hcomp, haway]
    . omega
    . intro _
      omega
    . rw [heffect, habsent]
  | idle _ _ hzero => omega
  | ahead _ _ hzero => omega
  | scheduled _ _ hzero => omega
  | launched hin _ hone _ hlaunched =>
    apply Phase.idle
    . rw [hcomp, hin]
    . exact hoff
    . omega
    . intro launch hlaunch
      rw [heffect, hlaunched] at hlaunch
      contradiction
    . intro _
      rw [heffect, hlaunched]

theorem Phase.started (h : Phase s) (hrequest : 0 < s.requests)
    : Phase { s with requests := s.requests - 1, activities := s.activities + 1 } := by
  have hout : State.outstanding
      { s with requests := s.requests - 1, activities := s.activities + 1 } = s.outstanding := by
    simp only [State.outstanding]
    omega
  cases h with
  | away hcomp hone hoff habsent => exact .away hcomp (by omega) (by rwa [hout]) habsent
  | idle hcomp hoff hzero hquiet hseen => exact .idle hcomp hoff (by omega) hquiet hseen
  | ahead hcomp hon hzero hquiet hahead => exact .ahead hcomp hon (by omega) hquiet hahead
  | scheduled hcomp hon hzero htrigger hasActivity heffect =>
    exact .scheduled hcomp hon (by omega) htrigger hasActivity heffect
  | launched hcomp hon hone htrigger heffect =>
    exact .launched hcomp hon (by omega) htrigger heffect

theorem Phase.tapped (h : Phase s) (hcomp : s.inComposition = true)
    (hguard : SeesFlagOff s .documentTabTapped)
    : Phase { s with documentViewModel := s.documentViewModel.onDocumentTabTapped } := by
  cases h with
  | away haway =>
    rw [hcomp] at haway
    contradiction
  | idle hcomp hoff hzero hquiet hseen =>
    refine .ahead hcomp rfl hzero hquiet ?_
    rcases hguard with hon | hguard
    . rw [hoff] at hon
      contradiction
    . exact hguard
  | ahead hcomp hon hzero hquiet hahead => exact .ahead hcomp rfl hzero hquiet hahead
  | scheduled hcomp hon hzero htrigger hasActivity heffect =>
    exact .scheduled hcomp rfl hzero htrigger hasActivity heffect
  | launched hcomp hon hone htrigger heffect => exact .launched hcomp rfl hone htrigger heffect

theorem Phase.collected (h : Phase s) (hcomp : s.inComposition = true)
    (hguard : SeesFlagOff s .collectOpenScanner)
    : Phase { s with trigger := s.documentViewModel.openScanner } := by
  cases h with
  | away haway =>
    rw [hcomp] at haway
    contradiction
  | idle hcomp hoff hzero hquiet hseen =>
    refine .idle hcomp hoff hzero hquiet ?_
    intro htrigger
    change s.documentViewModel.openScanner = true at htrigger
    rw [hoff] at htrigger
    contradiction
  | ahead hcomp hon hzero hquiet hahead =>
    refine .ahead hcomp hon hzero hquiet (Or.inl ?_)
    rcases hguard hon with hkey | htrigger
    . exact hkey
    . simpa [htrigger] using hahead
  | scheduled hcomp hon hzero htrigger hasActivity heffect =>
    exact .scheduled hcomp hon hzero hon hasActivity heffect
  | launched hcomp hon hone htrigger heffect => exact .launched hcomp hon hone hon heffect

theorem Phase.recomposed (h : Phase s) (hcomp : s.inComposition = true)
    : Phase s.documentScanner := by
  have hsame (hkey : s.scannerEffect.key = some s.trigger) : s.documentScanner = s := by
    unfold State.documentScanner
    rw [LaunchedEffect.compose_same hkey]
  cases h with
  | away haway =>
    rw [hcomp] at haway
    contradiction
  | idle hcomp hoff hzero hquiet hseen =>
    by_cases hkey : s.scannerEffect.key = some s.trigger
    . rw [hsame hkey]
      exact .idle hcomp hoff hzero hquiet hseen
    . have htrigger : s.trigger = false := by
        by_contra htrigger
        simp only [Bool.not_eq_false] at htrigger
        rw [hseen htrigger, htrigger] at hkey
        contradiction
      refine .idle hcomp hoff hzero ?_ ?_
      . intro launch hlaunch
        simp only [State.documentScanner, LaunchedEffect.compose_other hkey,
          Option.some.injEq] at hlaunch
        rw [← hlaunch]
        exact htrigger
      . intro hcontra
        change s.trigger = true at hcontra
        rw [htrigger] at hcontra
        contradiction
  | ahead hcomp hon hzero hquiet hahead =>
    cases htrigger : s.trigger with
    | false =>
      refine .ahead hcomp hon hzero ?_ ?_
      . intro launch hlaunch
        rcases LaunchedEffect.of_scheduled_compose hlaunch with ⟨_, hold⟩ | rfl
        . apply hquiet launch hold
        . exact htrigger
      . exact Or.inr htrigger
    | true =>
      have hkey : s.scannerEffect.key ≠ some s.trigger := by simpa [htrigger] using hahead
      refine .scheduled hcomp hon hzero htrigger s.hasActivity ?_
      unfold State.documentScanner
      rw [LaunchedEffect.compose_other hkey, htrigger]
  | scheduled hcomp hon hzero htrigger hasActivity heffect =>
    rw [hsame (by rw [heffect, htrigger])]
    exact .scheduled hcomp hon hzero htrigger hasActivity heffect
  | launched hcomp hon hone htrigger heffect =>
    rw [hsame (by rw [heffect, htrigger])]
    exact .launched hcomp hon hone htrigger heffect

theorem Phase.ranOff (h : Phase s) {launch : Launch}
    (hscheduled : s.scannerEffect.scheduled = some launch) (htrigger : launch.trigger = false)
    : Phase { s with scannerEffect := s.scannerEffect.ran } := by
  cases h with
  | away hcomp hone hoff habsent => exact .away hcomp hone hoff (by rw [habsent]; rfl)
  | idle hcomp hoff hzero hquiet hseen =>
    refine .idle hcomp hoff hzero ?_ ?_
    . intro launch hlaunch
      contradiction
    . exact hseen
  | ahead hcomp hon hzero hquiet hahead =>
    refine .ahead hcomp hon hzero ?_ ?_
    . intro launch hlaunch
      contradiction
    . exact hahead
  | scheduled _ _ _ _ _ heffect =>
    simp only [heffect, Option.some.injEq] at hscheduled
    subst hscheduled
    contradiction
  | launched _ _ _ _ heffect =>
    rw [heffect] at hscheduled
    contradiction

theorem Phase.of_scheduled (h : Phase s) {launch : Launch}
    (hscheduled : s.scannerEffect.scheduled = some launch) (htrigger : launch.trigger = true)
    : s.inComposition = true ∧ s.documentViewModel.openScanner = true ∧ s.outstanding = 0
        ∧ s.trigger = true ∧ s.scannerEffect.key = some true := by
  cases h with
  | away _ _ _ habsent =>
    rw [habsent] at hscheduled
    contradiction
  | idle _ _ _ hquiet =>
    rw [hquiet launch hscheduled] at htrigger
    contradiction
  | ahead _ _ _ hquiet =>
    rw [hquiet launch hscheduled] at htrigger
    contradiction
  | scheduled hcomp hon hzero htrigger _ heffect =>
    exact ⟨hcomp, hon, hzero, htrigger, by rw [heffect]⟩
  | launched _ _ _ _ heffect =>
    rw [heffect] at hscheduled
    contradiction

theorem Phase.entered (h : Phase s) (hcomp : s.inComposition = false) (hasActivity : Bool)
    (hguard : SeesFlagOff s (.enterComposition hasActivity))
    : Phase
        {
          s with
          inComposition := true
          hasActivity := hasActivity
          trigger := s.documentViewModel.openScanner
        }.documentScanner := by
  cases h with
  | away _ hone hoff habsent =>
    cases hflag : s.documentViewModel.openScanner with
    | false =>
      apply Phase.idle
      . rfl
      . exact hflag
      . exact hoff hflag
      . intro launch hlaunch
        simp only [State.documentScanner, habsent] at hlaunch
        rcases LaunchedEffect.of_scheduled_compose hlaunch with ⟨hkey, _⟩ | rfl
        . contradiction
        . rfl
      . intro hcontra
        contradiction
    | true =>
      apply Phase.scheduled
      . rfl
      . exact hflag
      . exact hguard hflag
      . rfl
      . simp only [State.documentScanner, habsent]
        apply LaunchedEffect.compose_other
        simp
  | _ => simp_all

theorem Phase.left (h : Phase s)
    : Phase { s with inComposition := false, scannerEffect := .absent } := by
  cases h with
  | away _ hone hoff => exact .away rfl hone hoff rfl
  | idle _ hoff hzero => exact .away rfl (by change s.outstanding ≤ 1; omega) (fun _ => hzero) rfl
  | ahead _ hon hzero => exact .away rfl (by change s.outstanding ≤ 1; omega) (fun _ => hzero) rfl
  | scheduled _ hon hzero =>
    exact .away rfl (by change s.outstanding ≤ 1; omega) (fun _ => hzero) rfl
  | launched _ hon hone =>
    refine .away rfl ?_ ?_ rfl
    . change s.outstanding ≤ 1
      omega
    . intro hoff
      change s.documentViewModel.openScanner = false at hoff
      rw [hon] at hoff
      contradiction

theorem outstanding_closed (hactivity : 0 < s.activities)
    : s.requests + (s.activities - 1) + 1 = s.outstanding := by
  unfold State.outstanding
  omega

theorem Phase.step (h : Phase s) (hguard : SeesFlagOff s e) (hs : Step s e s') : Phase s' := by
  cases hs with
  | tapped hcomp => apply h.tapped hcomp hguard
  | collected hcomp => apply h.collected hcomp hguard
  | recomposed hcomp => apply h.recomposed hcomp
  | ranOff launch hscheduled htrigger => apply h.ranOff hscheduled htrigger
  | ranWithoutActivity launch hscheduled htrigger =>
    rcases h.of_scheduled hscheduled htrigger with ⟨hcomp, _, hzero, _, hkey⟩
    refine .idle hcomp rfl hzero ?_ ?_
    . intro launch hlaunch
      contradiction
    . intro _
      exact hkey
  | requested launch hscheduled htrigger =>
    rcases h.of_scheduled hscheduled htrigger with ⟨hcomp, hon, hzero, hcollected, hkey⟩
    refine .launched hcomp hon ?_ ?_ ?_
    . unfold State.outstanding at *
      change s.requests + 1 + s.activities = 1
      omega
    . exact hcollected
    . simp only [LaunchedEffect.ran, hkey]
  | started hrequest => apply h.started hrequest
  | refused message hrequest =>
    apply h.answered
    . rfl
    . rfl
    . rfl
    . change s.requests - 1 + s.activities + 1 = s.requests + s.activities
      omega
  | cancelled resultCode data _ hactivity =>
    apply h.answered
    . rfl
    . rfl
    . rfl
    . exact outstanding_closed hactivity
  | returnedNoData _ hactivity =>
    apply h.answered
    . rfl
    . rfl
    . rfl
    . exact outstanding_closed hactivity
  | scanned gmsResult _ hactivity =>
    apply h.answered
    . rfl
    . rfl
    . rfl
    . exact outstanding_closed hactivity
  | entered hasActivity hcomp => apply h.entered hcomp hasActivity hguard
  | left => apply h.left

end

theorem launchProtocol_of_meets (es : List Event) (h : Meets step SeesFlagOff init es)
    : Always step LaunchProtocol init es := by
  apply always_of_meets (I := Phase) (G := SeesFlagOff)
  . intro s hs
    exact hs.launchProtocol
  . intro s e s' hs hguard hstep
    apply hs.step hguard (Step.of_step hstep)
  . exact phase_init
  . exact h

def twoScans : List Event :=
  [
    .enterComposition true, .runScannerEffect, .documentTabTapped, .collectOpenScanner, .recompose,
    .runScannerEffect, .startIntentSuccess, .activityResult 0 none, .collectOpenScanner, .recompose,
    .runScannerEffect, .documentTabTapped, .collectOpenScanner, .recompose, .runScannerEffect,
    .startIntentSuccess, .activityResult (-1) (some ⟨some ["page"], none⟩), .leaveComposition,
    .enterComposition true, .runScannerEffect
  ]

theorem twoScans_launchProtocol : Always step LaunchProtocol init twoScans := by
  apply launchProtocol_of_meets
  decide

-- Home is left and entered again before the start intent is there, the effect asks for another one.
def reentered : List Event :=
  [
    .enterComposition true, .runScannerEffect, .documentTabTapped, .collectOpenScanner, .recompose,
    .runScannerEffect, .leaveComposition, .enterComposition true, .runScannerEffect
  ]

theorem reentered_two_starts : ¬ Always step LaunchProtocol init reentered := by
  apply not_always_of_any
  decide

end Document
end MeeScanner
