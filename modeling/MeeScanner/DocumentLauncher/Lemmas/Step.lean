import MeeScanner.DocumentCamera.Lemmas.Run
import MeeScanner.DocumentLauncher.Impl

/-!
This module contains the inversion of `DocumentLauncher.step`, one constructor for each branch.
Every callback of a delegate has the same shape, what it reports is its `Outcome`.
-/

open Compose

namespace MeeScanner
namespace DocumentLauncher

inductive Outcome where
  | success (result : DocumentScanResult)
  | failure (message : String)

def Outcome.call : Outcome → DocumentCamera.Call
  | .success result => .onResult result
  | .failure message => .onError message

def Event.caller? : Event → Option Nat
  | .didCancel id => some id
  | .didFailWithError id _ => some id
  | .didFinishWithScan id _ _ => some id
  | _ => none

namespace State

def report (s : State) : Outcome → State
  | .success result => s.onResult result
  | .failure message => s.onError message

end State

inductive Step (s : State) : Event → State → Prop where
  | tapped (hcomp : s.inComposition)
    : Step s .documentTabTapped
        { s with documentViewModel := s.documentViewModel.onDocumentTabTapped }
  | collected (hcomp : s.inComposition)
    : Step s .collectOpenScanner { s with trigger := s.documentViewModel.openScanner }
  | recomposed (hcomp : s.inComposition) : Step s .recompose s.documentScanner
  | launcherCreated (hscheduled : s.launcherEffect.scheduled = some ())
    : Step s .runLauncherEffect
        {
          s with
          launcherEffect := s.launcherEffect.ran
          launcherRef := some s.launchers.length
          launchers := s.launchers ++ [none]
        }
  | ranOff (hlauncher : s.launcherEffect.scheduled = none)
    (hscheduled : s.triggerEffect.scheduled = some false)
    : Step s .runTriggerEffect { s with triggerEffect := s.triggerEffect.ran }
  | ranWithoutLauncher (hlauncher : s.launcherEffect.scheduled = none)
    (hscheduled : s.triggerEffect.scheduled = some true) (href : s.launcherRef = none)
    : Step s .runTriggerEffect { s with triggerEffect := s.triggerEffect.ran }
  | dispatched (hlauncher : s.launcherEffect.scheduled = none)
    (hscheduled : s.triggerEffect.scheduled = some true) (launcher : Nat)
    (href : s.launcherRef = some launcher)
    : Step s .runTriggerEffect
        {
          s with
          triggerEffect := s.triggerEffect.ran
          mainQueue := s.mainQueue ++ [launcher]
        }
  | presented (launcher : Nat) (mainQueue : List Nat)
    (hqueue : s.mainQueue = launcher :: mainQueue)
    : Step s (.runMainQueue true true) (State.present { s with mainQueue := mainQueue } launcher)
  | refused (supported hasRoot : Bool) (launcher : Nat) (mainQueue : List Nat)
    (hqueue : s.mainQueue = launcher :: mainQueue) (message : String)
    : Step s (.runMainQueue supported hasRoot)
        (State.onError { s with mainQueue := mainQueue } message)
  | freed (c : Controller) (hmem : c ∈ s.presented) (hdelegate : c.hasDelegate = true)
    (hretained : s.retained c = false)
    : Step s (.free c.id)
        {
          s with
          presented := s.presented.map fun d =>
            if d.id = c.id then { d with hasDelegate := false } else d
        }
  | called (e : Event) (c : Controller) (he : e.caller? = some c.id) (hmem : c ∈ s.presented)
    (hdelegate : c.hasDelegate = true) (outcome : Outcome)
    : Step s e (((s.dismiss c.id).report outcome).onFinished c.launcher)
  | entered (hcomp : s.inComposition = false)
    : Step s .enterComposition
        {
          s with
          inComposition := true
          trigger := s.documentViewModel.openScanner
        }.documentScanner
  | left (hcomp : s.inComposition)
    : Step s .leaveComposition
        {
          s with
          inComposition := false
          launcherEffect := .absent
          triggerEffect := .absent
          launcherRef := none
        }

variable {s s' : State} {e : Event}

theorem calls_documentCamera (env : DocumentCamera.Env) (scan : DocumentCamera.VNDocumentCameraScan)
    : ∃ outcome : Outcome,
        (DocumentCamera.documentCameraViewController env scan).calls
          = [.dismiss, outcome.call, .onFinished] := by
  unfold DocumentCamera.documentCameraViewController
  rcases DocumentCamera.first_failure scan.images with hgood | ⟨good, bad, rest, hsplit, hgood, hbad⟩
  . rw [DocumentCamera.finishWith_ok hgood]
    exact ⟨.success _, rfl⟩
  . rw [hsplit, DocumentCamera.finishWith_error hgood hbad]
    exact ⟨.failure _, rfl⟩

theorem Step.of_callback {id : Nat} {calls : List DocumentCamera.Call} (he : e.caller? = some id)
    (outcome : Outcome) (hcalls : calls = [.dismiss, outcome.call, .onFinished])
    (h : s.callback id calls = some s') : Step s e s' := by
  unfold State.callback at h
  split at h
  . contradiction
  . next c hfind =>
    simp only [Option.ite_none_right_eq_some, Option.some.injEq] at h
    rcases h with ⟨hdelegate, rfl⟩
    have hid : c.id = id := by simpa using List.find?_some hfind
    rw [← hid] at he
    rw [hcalls]
    cases outcome with
    | success result =>
      exact .called e c he (List.mem_of_find?_eq_some hfind) hdelegate (.success result)
    | failure message =>
      exact .called e c he (List.mem_of_find?_eq_some hfind) hdelegate (.failure message)

theorem Step.of_free {id : Nat} (h : s.free id = some s') : Step s (.free id) s' := by
  unfold State.free at h
  split at h
  . contradiction
  . next c hfind =>
    simp only [Option.ite_none_right_eq_some, Option.some.injEq] at h
    rcases h with ⟨⟨hdelegate, hretained⟩, rfl⟩
    have hid : c.id = id := by simpa using List.find?_some hfind
    subst hid
    exact .freed c (List.mem_of_find?_eq_some hfind) hdelegate hretained

theorem Step.of_runLauncherEffect (h : s.runLauncherEffect = some s')
    : Step s .runLauncherEffect s' := by
  unfold State.runLauncherEffect at h
  split at h
  . contradiction
  . next hscheduled =>
    injection h with h
    subst h
    exact .launcherCreated hscheduled

theorem Step.of_runTriggerEffect (h : s.runTriggerEffect = some s')
    : Step s .runTriggerEffect s' := by
  unfold State.runTriggerEffect at h
  split at h
  . next trigger hlauncher hscheduled =>
    cases trigger with
    | false =>
      injection h with h
      subst h
      exact .ranOff hlauncher hscheduled
    | true =>
      simp only [↓reduceIte] at h
      split at h
      . next href =>
        injection h with h
        subst h
        exact .ranWithoutLauncher hlauncher hscheduled href
      . next launcher href =>
        injection h with h
        subst h
        exact .dispatched hlauncher hscheduled launcher href
  . contradiction

theorem Step.of_runMainQueue {supported hasRoot : Bool}
    (h : s.runMainQueue supported hasRoot = some s')
    : Step s (.runMainQueue supported hasRoot) s' := by
  unfold State.runMainQueue at h
  split at h
  . contradiction
  . next launcher mainQueue hqueue =>
    cases supported with
    | false =>
      injection h with h
      subst h
      exact .refused false hasRoot launcher mainQueue hqueue _
    | true =>
      cases hasRoot with
      | false =>
        injection h with h
        subst h
        exact .refused true false launcher mainQueue hqueue _
      | true =>
        injection h with h
        subst h
        exact .presented launcher mainQueue hqueue

theorem Step.of_step (h : step s e = some s') : Step s e s' := by
  cases e with
  | documentTabTapped =>
    simp only [step, Option.ite_none_right_eq_some, Option.some.injEq] at h
    exact h.2 ▸ .tapped h.1
  | collectOpenScanner =>
    simp only [step, Option.ite_none_right_eq_some, Option.some.injEq] at h
    exact h.2 ▸ .collected h.1
  | recompose =>
    simp only [step, Option.ite_none_right_eq_some, Option.some.injEq] at h
    exact h.2 ▸ .recomposed h.1
  | runLauncherEffect => exact Step.of_runLauncherEffect h
  | runTriggerEffect => exact Step.of_runTriggerEffect h
  | runMainQueue supported hasRoot => exact Step.of_runMainQueue h
  | free id => exact Step.of_free h
  | didCancel id => exact Step.of_callback rfl (.failure _) rfl h
  | didFailWithError id localizedDescription => exact Step.of_callback rfl (.failure _) rfl h
  | didFinishWithScan id env scan =>
    rcases calls_documentCamera env scan with ⟨outcome, hcalls⟩
    exact Step.of_callback rfl outcome hcalls h
  | enterComposition =>
    simp only [step, State.enterComposition, Option.ite_none_left_eq_some, Bool.not_eq_true,
      Option.some.injEq] at h
    exact h.2 ▸ .entered h.1
  | leaveComposition =>
    simp only [step, State.leaveComposition, Option.ite_none_right_eq_some,
      Option.some.injEq] at h
    exact h.2 ▸ .left h.1

end DocumentLauncher
end MeeScanner
