import MeeScanner.App.Impl

/-!
This module contains the inversion of `App.step`, one constructor for each branch.
-/

open Compose

namespace MeeScanner
namespace App

inductive Step (s : State) : Event → State → Prop where
  | scanDelivered (result : ScanResult) (analyzerType : AnalyzerType)
    : Step s (.scanDelivered result analyzerType) (s.onScanResult result analyzerType)
  | historyClick (c : Composition) (hmem : c ∈ s.composed) (hroute : c.entry.route = .home)
    : Step s (.historyClick c) (s.navigate .history)
  | backClick (c : Composition) (hmem : c ∈ s.composed) (hroute : c.entry.route = .history)
    : Step s (.backClick c) s.popBackStack
  | systemBack (hmany : 1 < s.backStack.length) : Step s .systemBack s.popBackStack
  | systemBackLast (hlast : s.backStack.length ≤ 1) : Step s .systemBack s
  | enter (entry : Entry) (hmem : entry ∈ s.backStack) (hnew : ∀ c ∈ s.composed, c.entry ≠ entry)
    : Step s (.enter entry)
        {
          s with
          composed := s.composed ++ [s.composition entry]
          unseen := if s.unseen = some entry.id then none else s.unseen
        }
  | leave (c : Composition) (hmem : c ∈ s.composed)
    : Step s (.leave c) { s with composed := s.composed.erase c }
  | recreated (hstack : s.backStack ≠ []) : Step s .recreate { s with composed := [] }
  | restarted (hempty : s.backStack = [])
    : Step s .recreate (State.navigate { s with composed := [] } .home)
  | collectScanResult (c : Composition) (hmem : c ∈ s.composed) (hroute : c.entry.route = .result)
    : Step s (.collectScanResult c)
        (s.replace c { c with scanResult := s.resultViewModel.scanResult })
  | recompose (c : Composition) (hmem : c ∈ s.composed) (hroute : c.entry.route = .result)
    : Step s (.recompose c) (s.replace c c.resultScreen)
  | opened (c : Composition) (hmem : c ∈ s.composed) (hroute : c.entry.route = .result)
    (hscheduled : c.effect.scheduled = some ()) (rawValue : String) (frame : Option Bitmap)
    (hqr : c.scanResult = some (.qrResult rawValue frame))
    : Step s (.runEffect c) ((s.replace c { c with effect := c.effect.ran }).processQr rawValue)
  | ran (c : Composition) (hmem : c ∈ s.composed) (hroute : c.entry.route = .result)
    (hscheduled : c.effect.scheduled = some ()) (hother : c.scanResult.any (·.isQr) = false)
    : Step s (.runEffect c) (s.replace c { c with effect := c.effect.ran })

variable {s s' : State} {e : Event}

theorem Step.of_runEffect {c : Composition} (h : s.runEffect c = some s')
    : Step s (.runEffect c) s' := by
  unfold State.runEffect at h
  split at h
  . next hcomposed =>
    split at h
    . contradiction
    . next hscheduled =>
      dsimp only at h
      split at h
      . next rawValue frame hqr =>
        injection h with h
        subst h
        apply Step.opened c hcomposed.1 hcomposed.2 hscheduled rawValue frame hqr
      . next hother =>
        injection h with h
        subst h
        apply Step.ran c hcomposed.1 hcomposed.2 hscheduled
        cases hresult : c.scanResult with
        | none => rfl
        | some result =>
          cases result with
          | qrResult rawValue frame => exact absurd hresult (hother rawValue frame)
          | _ => rfl
  . contradiction

theorem Step.of_recreate (s : State) : Step s .recreate s.recreate := by
  unfold State.recreate
  dsimp only
  split
  . next hempty => exact .restarted hempty
  . next hstack => exact .recreated hstack

theorem Step.of_step (h : step s e = some s') : Step s e s' := by
  cases e with
  | scanDelivered result analyzerType =>
    simp only [step, Option.some.injEq] at h
    exact h ▸ .scanDelivered result analyzerType
  | historyClick c =>
    simp only [step, Option.ite_none_right_eq_some, Option.some.injEq] at h
    exact h.2 ▸ .historyClick c h.1.1 h.1.2
  | backClick c =>
    simp only [step, Option.ite_none_right_eq_some, Option.some.injEq] at h
    exact h.2 ▸ .backClick c h.1.1 h.1.2
  | systemBack =>
    simp only [step] at h
    split at h
    . next hmany =>
      injection h with h
      exact h ▸ .systemBack hmany
    . next hlast =>
      injection h with h
      exact h ▸ .systemBackLast (by omega)
  | enter entry =>
    simp only [step, State.enter, Option.ite_none_right_eq_some, Option.some.injEq] at h
    exact h.2 ▸ .enter entry h.1.1 h.1.2
  | leave c =>
    simp only [step, Option.ite_none_right_eq_some, Option.some.injEq] at h
    exact h.2 ▸ .leave c h.1
  | recreate =>
    simp only [step, Option.some.injEq] at h
    exact h ▸ .of_recreate s
  | collectScanResult c =>
    simp only [step, Option.ite_none_right_eq_some, Option.some.injEq] at h
    exact h.2 ▸ .collectScanResult c h.1.1 h.1.2
  | recompose c =>
    simp only [step, Option.ite_none_right_eq_some, Option.some.injEq] at h
    exact h.2 ▸ .recompose c h.1.1 h.1.2
  | runEffect c => apply Step.of_runEffect h

end App
end MeeScanner
