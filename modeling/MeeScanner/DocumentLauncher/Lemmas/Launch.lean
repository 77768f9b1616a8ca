import MeeScanner.Document.Lemmas.Launch
import MeeScanner.DocumentLauncher.Lemmas.Step

/-!
This module contains the launch protocol of the iOS document scanner. Apart from its launchers and
delegates it is the one of Android, a dispatched block is a request and a presented controller an
activity, so the phases of `Document` are those of its view `State.document`.
-/

open Compose Transition

namespace MeeScanner
namespace DocumentLauncher

namespace State

def document (s : State) : Document.State :=
  {
    documentViewModel := s.documentViewModel
    inComposition := s.inComposition
    hasActivity := true
    trigger := s.trigger
    scannerEffect := s.triggerEffect.map fun trigger => ⟨trigger, true⟩
    requests := s.mainQueue.length
    activities := s.presented.length
    scans := s.scans
  }

def outstanding (s : State) : Nat := s.mainQueue.length + s.presented.length

-- Home is composed, up to date with the view model, and both effects have run.
def Settled (s : State) : Prop :=
  s.inComposition = true
    ∧ s.trigger = s.documentViewModel.openScanner
    ∧ s.documentScanner = s
    ∧ s.launcherEffect.scheduled = none
    ∧ s.triggerEffect.scheduled = none

instance (s : State) : Decidable s.Settled := by
  unfold Settled
  infer_instance

end State

structure LaunchProtocol (s : State) : Prop where
  one : s.outstanding ≤ 1
  settled : s.Settled → (s.documentViewModel.openScanner = true ↔ s.outstanding = 1)
  heard : ∀ c ∈ s.presented, c.hasDelegate = true ∧ s.retained c = true

instance : DecidablePred LaunchProtocol := fun s =>
  decidable_of_iff
    (s.outstanding ≤ 1
      ∧ (s.Settled → (s.documentViewModel.openScanner = true ↔ s.outstanding = 1))
      ∧ ∀ c ∈ s.presented, c.hasDelegate = true ∧ s.retained c = true)
    ⟨fun h => ⟨h.1, h.2.1, h.2.2⟩, fun h => ⟨h.one, h.settled, h.heard⟩⟩

-- The composition sees the flag off between two times it is on, and Home stays composed while a
-- scanner is on its way or presented.
def StaysHome (s : State) : Event → Prop
  | .documentTabTapped => Document.SeesFlagOff s.document .documentTabTapped
  | .collectOpenScanner => Document.SeesFlagOff s.document .collectOpenScanner
  | .leaveComposition => s.outstanding = 0
  | _ => True

instance (s : State) (e : Event) : Decidable (StaysHome s e) := by
  unfold StaysHome
  split <;> infer_instance

structure Held (s : State) : Prop where
  phase : Document.Phase s.document
  away : s.inComposition = false → s.outstanding = 0 ∧ s.launcherEffect = .absent
  keyed : s.inComposition = true → s.launcherEffect.key = some ()
  starting : s.launcherEffect.scheduled = some () → s.outstanding = 0
  created : s.inComposition = true → s.launcherEffect.scheduled = none → s.launcherRef ≠ none
  launcher : ∀ launcher, s.launcherRef = some launcher → launcher < s.launchers.length
  queued : ∀ launcher ∈ s.mainQueue, s.launcherRef = some launcher
  presented : ∀ c ∈ s.presented, c.hasDelegate = true ∧ s.launcherRef = some c.launcher
    ∧ s.launchers[c.launcher]? = some (some c.id)

theorem held_init : Held init := by
  constructor
  . exact .away rfl (by decide) (fun _ => rfl) rfl
  all_goals simp [init, State.outstanding]

section

variable {s s' : State} {e : Event}

theorem empty_of_outstanding (hzero : s.outstanding = 0) : s.mainQueue = [] ∧ s.presented = [] := by
  simpa [State.outstanding] using hzero

theorem document_documentScanner : s.documentScanner.document = s.document.documentScanner := by
  simp [State.document, State.documentScanner, Document.State.documentScanner]

theorem Held.retained (h : Held s) {c : Controller} (hmem : c ∈ s.presented)
    : s.retained c = true := by
  rcases h.presented c hmem with ⟨_, href, hactive⟩
  simp only [State.retained, List.any_eq_true, List.mem_range, State.reachable, decide_eq_true_eq]
  exact ⟨c.launcher, h.launcher _ href, Or.inl href, hactive⟩

theorem Held.launchProtocol (h : Held s) : LaunchProtocol s := by
  have hprotocol := h.phase.launchProtocol
  constructor
  . exact hprotocol.1
  . intro hsettled
    apply hprotocol.2
    rcases hsettled with ⟨hcomp, htrigger, hscreen, _, hscheduled⟩
    have hsame : s.document.documentScanner = s.document := by
      rw [← document_documentScanner, hscreen]
    refine ⟨hcomp, htrigger, hsame, ?_⟩
    simp [State.document, LaunchedEffect.map, hscheduled]
  . intro c hmem
    exact ⟨(h.presented c hmem).1, h.retained hmem⟩

theorem Held.only (h : Held s) {c : Controller} (hmem : c ∈ s.presented)
    : s.mainQueue = [] ∧ s.presented = [c] := by
  have hone : s.mainQueue.length + s.presented.length ≤ 1 := h.phase.launchProtocol.1
  cases hpresented : s.presented with
  | nil =>
    rw [hpresented] at hmem
    contradiction
  | cons top covered =>
    rw [hpresented, List.length_cons] at hone
    have hcovered : covered = [] := List.length_eq_zero_iff.mp (by omega)
    have hqueue : s.mainQueue = [] := List.length_eq_zero_iff.mp (by omega)
    subst hcovered
    rw [hpresented, List.mem_singleton] at hmem
    subst hmem
    exact ⟨hqueue, rfl⟩

theorem Held.next (h : Held s) {launcher : Nat} {mainQueue : List Nat}
    (hqueue : s.mainQueue = launcher :: mainQueue) : mainQueue = [] ∧ s.presented = [] := by
  have hone : s.mainQueue.length + s.presented.length ≤ 1 := h.phase.launchProtocol.1
  rw [hqueue, List.length_cons] at hone
  exact ⟨List.length_eq_zero_iff.mp (by omega), List.length_eq_zero_iff.mp (by omega)⟩

theorem Held.recomposed (h : Held s) (hcomp : s.inComposition = true) : Held s.documentScanner := by
  have hlauncher : s.launcherEffect.compose () () = s.launcherEffect :=
    LaunchedEffect.compose_same (h.keyed hcomp) ()
  have hsame : s.documentScanner
      = { s with triggerEffect := s.triggerEffect.compose s.trigger s.trigger } := by
    unfold State.documentScanner
    rw [hlauncher]
  have hphase := h.phase.recomposed hcomp
  rw [← document_documentScanner] at hphase
  rw [hsame] at hphase ⊢
  exact { h with phase := hphase }

theorem Held.launcherCreated (h : Held s) (hscheduled : s.launcherEffect.scheduled = some ())
    : Held
        {
          s with
          launcherEffect := s.launcherEffect.ran
          launcherRef := some s.launchers.length
          launchers := s.launchers ++ [none]
        } := by
  rcases empty_of_outstanding (h.starting hscheduled) with ⟨hqueue, hpresented⟩
  constructor
  . exact h.phase
  . intro haway
    rw [(h.away haway).2] at hscheduled
    contradiction
  . exact h.keyed
  . intro hcontra
    contradiction
  . intro _ _ hcontra
    contradiction
  . intro launcher hlauncher
    injection hlauncher with hlauncher
    simp [← hlauncher]
  . simp [hqueue]
  . simp [hpresented]

theorem Held.ranOff (h : Held s) (hscheduled : s.triggerEffect.scheduled = some false)
    : Held { s with triggerEffect := s.triggerEffect.ran } := by
  have hview : s.document.scannerEffect.scheduled = some ⟨false, true⟩ := by
    simp [State.document, LaunchedEffect.map, hscheduled]
  exact { h with phase := h.phase.ranOff hview rfl }

theorem Held.of_scheduled (h : Held s) (hscheduled : s.triggerEffect.scheduled = some true)
    : s.inComposition = true ∧ s.outstanding = 0 := by
  have hview : s.document.scannerEffect.scheduled = some ⟨true, true⟩ := by
    simp [State.document, LaunchedEffect.map, hscheduled]
  have hphase := h.phase.of_scheduled hview rfl
  exact ⟨hphase.1, hphase.2.2.1⟩

theorem Held.dispatched (h : Held s) (hlauncher : s.launcherEffect.scheduled = none)
    (hscheduled : s.triggerEffect.scheduled = some true) {launcher : Nat}
    (href : s.launcherRef = some launcher)
    : Held
        {
          s with
          triggerEffect := s.triggerEffect.ran
          mainQueue := s.mainQueue ++ [launcher]
        } := by
  have hcomp := (h.of_scheduled hscheduled).1
  have hview : s.document.scannerEffect.scheduled = some ⟨true, true⟩ := by
    simp [State.document, LaunchedEffect.map, hscheduled]
  have hphase := h.phase.step (e := .runScannerEffect) trivial (.requested ⟨true, true⟩ hview rfl rfl)
  constructor
  . simp only [State.document, List.length_append, List.length_singleton]
    exact hphase
  . intro haway
    rw [hcomp] at haway
    contradiction
  . exact h.keyed
  . intro hcontra
    rw [hlauncher] at hcontra
    contradiction
  . exact h.created
  . exact h.launcher
  . intro other hother
    rw [List.mem_append, List.mem_singleton] at hother
    rcases hother with hother | rfl
    . exact h.queued other hother
    . exact href
  . exact h.presented

theorem Held.present (h : Held s) {launcher : Nat} {mainQueue : List Nat}
    (hqueue : s.mainQueue = launcher :: mainQueue)
    : Held (State.present { s with mainQueue := mainQueue } launcher) := by
  rcases h.next hqueue with ⟨rfl, hpresented⟩
  have href : s.launcherRef = some launcher := h.queued launcher (by simp [hqueue])
  have hphase := h.phase.step (e := .startIntentSuccess) trivial
    (.started (by simp [State.document, hqueue]))
  have hbusy : s.outstanding ≠ 0 := by simp [State.outstanding, hqueue]
  constructor
  . simpa [State.document, State.present, hqueue, hpresented] using hphase
  . intro haway
    exact absurd (h.away haway).1 hbusy
  . exact h.keyed
  . intro hscheduled
    exact absurd (h.starting hscheduled) hbusy
  . exact h.created
  . intro other hother
    simp only [State.present, List.length_set]
    exact h.launcher other hother
  . simp [State.present]
  . intro c hmem
    simp only [State.present, hpresented, List.mem_singleton] at hmem
    subst hmem
    refine ⟨rfl, href, ?_⟩
    simp [State.present, h.launcher launcher href]

theorem Held.refused (h : Held s) {launcher : Nat} {mainQueue : List Nat}
    (hqueue : s.mainQueue = launcher :: mainQueue) (message : String)
    : Held (State.onError { s with mainQueue := mainQueue } message) := by
  rcases h.next hqueue with ⟨rfl, hpresented⟩
  have hphase := h.phase.step (e := .startIntentFailure (some message)) trivial
    (.refused (some message) (by simp [State.document, hqueue]))
  have hbusy : s.outstanding ≠ 0 := by simp [State.outstanding, hqueue]
  constructor
  . simpa [State.document, State.onError, Document.State.onError, hqueue] using hphase
  . intro haway
    exact absurd (h.away haway).1 hbusy
  . exact h.keyed
  . intro hscheduled
    exact absurd (h.starting hscheduled) hbusy
  . exact h.created
  . exact h.launcher
  . simp [State.onError]
  . intro c hmem
    simp only [State.onError, hpresented] at hmem
    contradiction

theorem Held.called (h : Held s) {c : Controller} (hmem : c ∈ s.presented) (outcome : Outcome)
    : Held (((s.dismiss c.id).report outcome).onFinished c.launcher) := by
  rcases h.only hmem with ⟨hqueue, hpresented⟩
  have hdismiss : s.dismiss c.id = { s with presented := [] } := by
    simp [State.dismiss, hpresented]
  have hbusy : s.outstanding ≠ 0 := by simp [State.outstanding, hpresented]
  rw [hdismiss]
  constructor
  . apply h.phase.answered
    . cases outcome <;> rfl
    . cases outcome <;> rfl
    . cases outcome <;> rfl
    . cases outcome <;> simp [State.document, Document.State.outstanding, State.report,
        State.onResult, State.onError, State.onFinished, hqueue, hpresented]
  . intro haway
    have haway : s.inComposition = false := by cases outcome <;> exact haway
    exact absurd (h.away haway).1 hbusy
  . cases outcome <;> exact h.keyed
  . intro hscheduled
    have hscheduled : s.launcherEffect.scheduled = some () := by
      cases outcome <;> exact hscheduled
    exact absurd (h.starting hscheduled) hbusy
  . cases outcome <;> exact h.created
  . intro other hother
    have hlauncher := h.launcher other (by cases outcome <;> exact hother)
    cases outcome <;> simpa [State.report, State.onResult, State.onError, State.onFinished]
      using hlauncher
  . cases outcome <;> exact h.queued
  . intro d hd
    cases outcome <;> contradiction

theorem Held.entered (h : Held s) (hcomp : s.inComposition = false)
    : Held
        {
          s with
          inComposition := true
          trigger := s.documentViewModel.openScanner
        }.documentScanner := by
  rcases h.away hcomp with ⟨hzero, habsent⟩
  rcases empty_of_outstanding hzero with ⟨hqueue, hpresented⟩
  have hphase := h.phase.step (e := .enterComposition true) (fun _ => hzero) (.entered true hcomp)
  constructor
  . rw [document_documentScanner]
    exact hphase
  . intro haway
    contradiction
  . intro _
    simp [State.documentScanner]
  . intro _
    exact hzero
  . intro _ hscheduled
    simp [State.documentScanner, habsent, LaunchedEffect.compose, LaunchedEffect.absent]
      at hscheduled
  . exact h.launcher
  . simp [State.documentScanner, hqueue]
  . simp [State.documentScanner, hpresented]

theorem Held.left (h : Held s) (hcomp : s.inComposition = true) (hzero : s.outstanding = 0)
    : Held
        {
          s with
          inComposition := false
          launcherEffect := .absent
          triggerEffect := .absent
          launcherRef := none
        } := by
  have hphase := h.phase.step (e := .leaveComposition) trivial (.left hcomp)
  rcases empty_of_outstanding hzero with ⟨hqueue, hpresented⟩
  constructor
  . exact hphase
  . intro _
    exact ⟨hzero, rfl⟩
  . intro hcontra
    contradiction
  . intro hcontra
    contradiction
  . intro hcontra
    contradiction
  . intro _ hcontra
    contradiction
  . simp [hqueue]
  . simp [hpresented]

theorem Held.step (h : Held s) (hguard : StaysHome s e) (hs : Step s e s') : Held s' := by
  cases hs with
  | tapped hcomp => exact { h with phase := h.phase.tapped hcomp hguard }
  | collected hcomp => exact { h with phase := h.phase.collected hcomp hguard }
  | recomposed hcomp => exact h.recomposed hcomp
  | launcherCreated hscheduled => exact h.launcherCreated hscheduled
  | ranOff _ hscheduled => exact h.ranOff hscheduled
  | ranWithoutLauncher hlauncher hscheduled href =>
    exact absurd href (h.created (h.of_scheduled hscheduled).1 hlauncher)
  | dispatched hlauncher hscheduled launcher href => exact h.dispatched hlauncher hscheduled href
  | presented launcher mainQueue hqueue => exact h.present hqueue
  | refused supported hasRoot launcher mainQueue hqueue message => exact h.refused hqueue message
  | freed c hmem _ hretained =>
    rw [h.retained hmem] at hretained
    contradiction
  | called _ c _ hmem _ outcome => exact h.called hmem outcome
  | entered hcomp => exact h.entered hcomp
  | left hcomp => exact h.left hcomp hguard

theorem Held.count (h : Held s) (hs : Step s e s')
    : s'.nextId + s.presented.length
        =
      s.nextId + (if e.caller?.isSome then 1 else 0) + s'.presented.length := by
  cases hs with
  | called e c he hmem _ outcome =>
    have hpresented := (h.only hmem).2
    have hdismiss : (s.dismiss c.id).presented = [] := by simp [State.dismiss, hpresented]
    have hnext : (s.dismiss c.id).nextId = s.nextId := by simp [State.dismiss, hpresented]
    cases outcome <;> simp [State.report, State.onResult, State.onError, State.onFinished, he,
      hpresented, hdismiss, hnext]
  | presented =>
    simp [State.present, Event.caller?]
    omega
  | _ => simp [Event.caller?, State.documentScanner, State.onError]

theorem count_exec (h : Held s) {es : List Event} (hmeets : Meets step StaysHome s es)
    (hexec : exec step s es = some s')
    : s'.nextId + s.presented.length
        =
      s.nextId + es.countP (·.caller?.isSome) + s'.presented.length ∧ Held s' := by
  induction es generalizing s with
  | nil =>
    simp only [exec_nil, Option.some.injEq] at hexec
    subst hexec
    exact ⟨rfl, h⟩
  | cons e es ih =>
    rw [exec_cons, Option.bind_eq_some_iff] at hexec
    rcases hexec with ⟨t, hstep, hexec⟩
    have ⟨hguard, hrest⟩ := hmeets t hstep
    have hs := Step.of_step hstep
    have hhead := h.count hs
    have htail := ih (h.step hguard hs) hrest hexec
    refine ⟨?_, htail.2⟩
    rw [List.countP_cons]
    omega

theorem Held.callback (h : Held s) {c : Controller} (hmem : c ∈ s.presented)
    (calls : List DocumentCamera.Call) : (s.callback c.id calls).isSome := by
  have hpresented := (h.only hmem).2
  have hdelegate := (h.presented c hmem).1
  simp [State.callback, hpresented, hdelegate]

-- A presented controller can call its delegate, and that ends the launch.
theorem answers_of_presented (h : Held s) {c : Controller} (hmem : c ∈ s.presented)
    (he : e.caller? = some c.id)
    : ∃ s', step s e = some s' ∧ s'.outstanding = 0
        ∧ s'.documentViewModel.openScanner = false := by
  have henabled : (step s e).isSome := by
    cases e with
    | didCancel id =>
      injection he with he
      exact he ▸ h.callback hmem _
    | didFailWithError id localizedDescription =>
      injection he with he
      exact he ▸ h.callback hmem _
    | didFinishWithScan id env scan =>
      injection he with he
      exact he ▸ h.callback hmem _
    | _ => contradiction
  rcases Option.isSome_iff_exists.mp henabled with ⟨s', hs'⟩
  refine ⟨s', hs', ?_⟩
  cases Step.of_step hs' with
  | called _ d _ hd _ outcome =>
    rcases h.only hd with ⟨hqueue, hpresented⟩
    cases outcome <;> simp [State.report, State.onResult, State.onError, State.onFinished,
      State.dismiss, State.outstanding, DocumentViewModel.onScanSuccess,
      DocumentViewModel.onScanError, hqueue, hpresented]
  | _ => contradiction

end

theorem launchProtocol_of_staysHome (es : List Event) (h : Meets step StaysHome init es)
    : Always step LaunchProtocol init es := by
  apply always_of_meets (I := Held)
  . intro s hs
    exact hs.launchProtocol
  . intro s e s' hs hguard hstep
    exact hs.step hguard (Step.of_step hstep)
  . exact held_init
  . exact h

def twoLaunches : List Event :=
  [
    .enterComposition, .runLauncherEffect, .runTriggerEffect, .documentTabTapped,
    .collectOpenScanner, .recompose, .runTriggerEffect, .runMainQueue true true, .didCancel 0,
    .collectOpenScanner, .recompose, .runTriggerEffect, .documentTabTapped, .collectOpenScanner,
    .recompose, .runTriggerEffect, .runMainQueue true true
  ]

theorem twoLaunches_launchProtocol : Always step LaunchProtocol init twoLaunches := by
  apply launchProtocol_of_staysHome
  decide

-- Home is left while the scanner is presented: its delegate is freed and nobody hears the scan.
def leftWhilePresented : List Event :=
  [
    .enterComposition, .runLauncherEffect, .runTriggerEffect, .documentTabTapped,
    .collectOpenScanner, .recompose, .runTriggerEffect, .runMainQueue true true,
    .leaveComposition, .free 0
  ]

theorem leftWhilePresented_unheard : ¬ Always step LaunchProtocol init leftWhilePresented := by
  apply not_always_of_any
  decide

theorem answeredOnce (es : List Event) (s : State) (hmeets : Meets step StaysHome init es)
    (hexec : exec step init es = some s)
    : s.nextId = es.countP (·.caller?.isSome) + s.presented.length
        ∧ s.presented.length ≤ 1
        ∧ ∀ c ∈ s.presented, ∀ e : Event, e.caller? = some c.id →
          ∃ s', step s e = some s' ∧ s'.outstanding = 0
            ∧ s'.documentViewModel.openScanner = false := by
  rcases count_exec held_init hmeets hexec with ⟨hcount, h⟩
  refine ⟨by simpa [init] using hcount, ?_, ?_⟩
  . have hone := h.launchProtocol.one
    simp only [State.outstanding] at hone
    omega
  . intro c hmem e he
    exact answers_of_presented h hmem he

def afterTwoLaunches : State := (exec step init twoLaunches).get (by decide)

theorem twoLaunches_answeredOnce
    : afterTwoLaunches.nextId
        = twoLaunches.countP (·.caller?.isSome) + afterTwoLaunches.presented.length
        ∧ afterTwoLaunches.presented.length ≤ 1
        ∧ ∀ c ∈ afterTwoLaunches.presented, ∀ e : Event, e.caller? = some c.id →
          ∃ s', step afterTwoLaunches e = some s' ∧ s'.outstanding = 0
            ∧ s'.documentViewModel.openScanner = false := by
  apply answeredOnce twoLaunches afterTwoLaunches
  . decide
  . exact (Option.some_get _).symm

end DocumentLauncher
end MeeScanner
