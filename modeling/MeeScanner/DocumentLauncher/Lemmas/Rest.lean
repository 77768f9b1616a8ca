import MeeScanner.DocumentLauncher.Lemmas.Launch
import MeeScanner.Rest

/-!
This module contains what the iOS document scanner does on its own. Besides the collector, the
compositions and the two effects these are the blocks of the main queue, and a block that presents
no scanner turns the flag off.
-/

open Compose Transition

namespace MeeScanner
namespace DocumentLauncher

def Event.internal : Event → Bool
  | .collectOpenScanner => true
  | .recompose => true
  | .runLauncherEffect => true
  | .runTriggerEffect => true
  | .runMainQueue .. => true
  | _ => false

def internalStep : State → Event → Option State := restrict step Event.internal

namespace State

-- A launch counts twice, for its effect and for the block that the effect dispatches.
def launches (s : State) : Nat :=
  s.launcherEffect.due (some ()) + 2 * s.triggerEffect.due (some s.trigger)

def unrest (s : State) : Nat :=
  (if s.documentViewModel.openScanner then 5 else 0)
    + behind 5 s.trigger s.documentViewModel.openScanner + s.launches + s.mainQueue.length

def untouched (s : State) : Bool × List ScanResult := (s.inComposition, s.scans)

end State

section

variable {s s' : State} {e : Event}

theorem unrest_bound (s : State) : s.unrest ≤ 19 + s.mainQueue.length := by
  have hcopy : behind 5 s.trigger s.documentViewModel.openScanner ≤ 5 := behind_le
  have hlauncher := LaunchedEffect.due_bound (some ()) s.launcherEffect
  have htrigger := LaunchedEffect.due_bound (some s.trigger) s.triggerEffect
  unfold State.unrest State.launches
  split <;> omega

theorem unrest_onError (s : State) (message : String) : (s.onError message).unrest ≤ s.unrest := by
  have hcopy : behind 5 s.trigger false ≤ 5 := behind_le
  change 0 + behind 5 s.trigger false + s.launches + s.mainQueue.length ≤ _
  unfold State.unrest
  cases s.documentViewModel.openScanner with
  | false => simp
  | true =>
    simp only [↓reduceIte]
    omega

theorem launches_documentScanner (s : State)
    : s.documentScanner = s ∨ s.documentScanner.launches < s.launches := by
  have hlauncher := s.launcherEffect.due_compose () ()
  have htrigger := s.triggerEffect.due_compose s.trigger s.trigger
  unfold State.documentScanner State.launches
  rcases hlauncher with hlauncher | hlauncher
  . rcases htrigger with htrigger | htrigger
    . rw [hlauncher, htrigger]
      exact Or.inl rfl
    . rw [hlauncher]
      exact Or.inr (by dsimp only; omega)
  . rcases htrigger with htrigger | htrigger
    . rw [htrigger]
      exact Or.inr (by dsimp only; omega)
    . exact Or.inr (by dsimp only; omega)

theorem unrest_lt_of_launches {launcherEffect : LaunchedEffect Unit Unit}
    {triggerEffect : LaunchedEffect Bool Bool} {mainQueue : List Nat}
    (hlt : launcherEffect.due (some ()) + 2 * triggerEffect.due (some s.trigger) + mainQueue.length
      < s.launches + s.mainQueue.length)
    : State.unrest
        {
          s with
          launcherEffect := launcherEffect
          triggerEffect := triggerEffect
          mainQueue := mainQueue
        } < s.unrest := by
  unfold State.unrest State.launches
  unfold State.launches at hlt
  dsimp only
  omega

theorem unrest_step (h : internalStep s e = some s') : s' = s ∨ s'.unrest < s.unrest := by
  rcases restrict_eq_some_iff.mp h with ⟨hinternal, hs⟩
  cases Step.of_step hs with
  | collected =>
    by_cases hsame : s.trigger = s.documentViewModel.openScanner
    . rw [← hsame]
      exact Or.inl rfl
    . apply Or.inr
      have hdue := s.triggerEffect.due_le (some s.documentViewModel.openScanner) (some s.trigger)
      unfold State.unrest State.launches
      rw [behind_of_ne hsame, behind_self]
      dsimp only
      omega
  | recomposed =>
    rcases launches_documentScanner s with hsame | hlt
    . exact Or.inl hsame
    . exact Or.inr (Nat.add_lt_add_right (Nat.add_lt_add_left hlt _) _)
  | launcherCreated hscheduled =>
    have hlt := LaunchedEffect.due_ran hscheduled (some ())
    exact Or.inr (Nat.add_lt_add_right (Nat.add_lt_add_left (Nat.add_lt_add_right hlt _) _) _)
  | ranOff hlauncher hscheduled =>
    have hlt := LaunchedEffect.due_ran hscheduled (some s.trigger)
    apply Or.inr
    apply unrest_lt_of_launches
    unfold State.launches
    omega
  | ranWithoutLauncher hlauncher hscheduled =>
    have hlt := LaunchedEffect.due_ran hscheduled (some s.trigger)
    apply Or.inr
    apply unrest_lt_of_launches
    unfold State.launches
    omega
  | dispatched hlauncher hscheduled launcher =>
    have hlt := LaunchedEffect.due_ran hscheduled (some s.trigger)
    apply Or.inr
    apply unrest_lt_of_launches
    unfold State.launches
    rw [List.length_append, List.length_singleton]
    omega
  | presented launcher mainQueue hqueue =>
    apply Or.inr
    have hlt : mainQueue.length < s.mainQueue.length := by
      rw [hqueue]
      exact Nat.lt_succ_self _
    exact Nat.add_lt_add_left hlt _
  | refused supported hasRoot launcher mainQueue hqueue message =>
    apply Or.inr
    have hlt : mainQueue.length < s.mainQueue.length := by
      rw [hqueue]
      exact Nat.lt_succ_self _
    exact Nat.lt_of_le_of_lt (unrest_onError _ message) (Nat.add_lt_add_left hlt _)
  | called e c he => cases e <;> contradiction
  | _ => contradiction

theorem untouched_internal (h : internalStep s e = some s') : s'.untouched = s.untouched := by
  rcases restrict_eq_some_iff.mp h with ⟨hinternal, hs⟩
  cases Step.of_step hs with
  | called e c he => cases e <;> contradiction
  | tapped => contradiction
  | freed => contradiction
  | entered => contradiction
  | left => contradiction
  | _ => rfl

theorem scheduled_of_quiet (hquiet : Quiet internalStep s)
    : s.launcherEffect.scheduled = none ∧ s.triggerEffect.scheduled = none := by
  have hlauncher : s.launcherEffect.scheduled = none := by
    apply hquiet.eq_none (·.launcherEffect.scheduled) .runLauncherEffect rfl
    intro launch hscheduled
    simp only [step, State.runLauncherEffect, hscheduled]
    exact ⟨_, rfl, rfl⟩
  refine ⟨hlauncher, ?_⟩
  apply hquiet.eq_none (·.triggerEffect.scheduled) .runTriggerEffect rfl
  intro trigger hscheduled
  simp only [step, State.runTriggerEffect, hlauncher, hscheduled]
  split
  . split
    . exact ⟨_, rfl, rfl⟩
    . exact ⟨_, rfl, rfl⟩
  . exact ⟨_, rfl, rfl⟩

theorem mainQueue_of_quiet (hquiet : Quiet internalStep s) : s.mainQueue = [] := by
  cases hqueue : s.mainQueue with
  | nil => rfl
  | cons launcher mainQueue =>
    have hpresented : ∃ s', step s (.runMainQueue true true) = some s'
        ∧ s'.mainQueue = mainQueue := by
      simp only [step, State.runMainQueue, hqueue, ↓reduceIte]
      exact ⟨_, rfl, rfl⟩
    rcases hpresented with ⟨s', hs', hmain⟩
    rw [hquiet.eq _ rfl hs', hqueue] at hmain
    simp at hmain

theorem settled_of_quiet (hcomp : s.inComposition = true) (hquiet : Quiet internalStep s)
    : s.Settled := by
  refine ⟨hcomp, ?_, ?_, scheduled_of_quiet hquiet⟩
  . have hcollected := hquiet.eq .collectOpenScanner rfl (if_pos hcomp)
    exact (congrArg State.trigger hcollected).symm
  . exact hquiet.eq .recompose rfl (if_pos hcomp)

end

/--
However the collector, the compositions, the effects and the main queue follow each other, few of
them change anything, and from where they are they can settle Home with an empty main queue and
without a scan.
-/
theorem launcherComesToRest (s s' : State) (es : List Event) (hcomp : s.inComposition = true)
    (hexec : exec internalStep s es = some s')
    : changes internalStep s es ≤ 19 + s.mainQueue.length
        ∧ ∃ t, Reaches internalStep s' t ∧ Quiet internalStep t ∧ t.Settled ∧ t.mainQueue = []
            ∧ t.scans = s.scans := by
  rcases rests_of_measure State.untouched (fun _ _ _ h => unrest_step h)
    (fun _ _ _ h => untouched_internal h) hexec with ⟨hchanges, t, hreaches, hquiet, hsame⟩
  have hsettled : t.Settled := by
    apply settled_of_quiet _ hquiet
    rw [← hcomp]
    exact congrArg (·.1) hsame
  exact ⟨Nat.le_trans hchanges (unrest_bound s), t, hreaches, hquiet, hsettled,
    mainQueue_of_quiet hquiet, congrArg (·.2) hsame⟩

-- A tap where scanning is not supported: the block reports an error.
def tappedUnsupported : State :=
  (exec step init [.enterComposition, .runLauncherEffect, .documentTabTapped]).get (by decide)

def unsupported : List Event :=
  [
    .collectOpenScanner, .runTriggerEffect, .recompose, .runTriggerEffect,
    .runMainQueue false true, .recompose, .collectOpenScanner, .recompose
  ]

theorem tappedUnsupported_comesToRest
    : changes internalStep tappedUnsupported unsupported ≤ 19 + tappedUnsupported.mainQueue.length
        ∧ ∃ t, Reaches internalStep
              ((exec internalStep tappedUnsupported unsupported).get (by decide)) t
            ∧ Quiet internalStep t ∧ t.Settled ∧ t.mainQueue = []
            ∧ t.scans = tappedUnsupported.scans := by
  apply launcherComesToRest tappedUnsupported _ unsupported
  . decide
  . exact (Option.some_get _).symm

end DocumentLauncher
end MeeScanner
