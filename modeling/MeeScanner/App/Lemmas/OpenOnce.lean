import MeeScanner.App.Lemmas.Step

/-!
This module contains the accounting of the links that `ResultScreen` opens. `scanResult` is never
cleared, so every composition of a Result entry opens a retained QR result again. A scan gives one
credit: to the entry it pushed until that is composed, then to the effect of this composition.
-/

open Compose Transition

namespace MeeScanner
namespace App

def Composition.armed (c : Composition) : Bool :=
  c.effect.scheduled.isSome && c.scanResult.any (·.isQr)

namespace State

def qrScans (s : State) : Nat := s.scans.countP (·.1.isQr)

def retainsQr (s : State) : Bool := s.resultViewModel.scanResult.any (·.isQr)

def credit (s : State) : Nat := if s.retainsQr ∧ s.unseen.isSome then 1 else 0

def armed (s : State) : Nat := s.composed.countP (·.armed)

end State

def OpenedOncePerScan (s : State) : Prop := s.opened.length ≤ s.qrScans

instance : DecidablePred OpenedOncePerScan := fun s =>
  inferInstanceAs (Decidable (s.opened.length ≤ s.qrScans))

/-
A QR result is delivered only while no Result entry is in the composition, unless with the same
result, and a retained QR result is composed only by the entry of its own scan and only once.
-/
def ComposesScanOnce (s : State) : Event → Prop
  | .scanDelivered result _ =>
    result.isQr = true →
      ∀ c ∈ s.composed, c.entry.route = .result → c.scanResult = some result
  | .enter entry => entry.route = .result → s.retainsQr = true → s.unseen = some entry.id
  | _ => True

instance (s : State) (e : Event) : Decidable (ComposesScanOnce s e) := by
  unfold ComposesScanOnce
  split <;> infer_instance

structure Composition.UpToDate (c : Composition) (s : State) : Prop where
  other : c.entry.route ≠ .result → c.armed = false
  collected : c.entry.route = .result → s.retainsQr = true →
    c.scanResult = s.resultViewModel.scanResult
  keyed : c.scanResult.any (·.isQr) = true → c.effect.key = some c.scanResult

structure OpenBudget (s : State) : Prop where
  upToDate : ∀ c ∈ s.composed, c.UpToDate s
  budget : s.opened.length + s.armed + s.credit ≤ s.qrScans

theorem openBudget_init : OpenBudget init := by
  constructor
  . intro c hc
    contradiction
  . decide

section

variable {s s' : State} {e : Event} {c c' : Composition}

theorem credit_le_one : s.credit ≤ 1 := by
  unfold State.credit
  split <;> omega

theorem credit_eq_zero (h : s.retainsQr = false) : s.credit = 0 := by
  simp [State.credit, h]

theorem armed_erase (hmem : c ∈ s.composed)
    : s.armed = (s.composed.erase c).countP (·.armed) + if c.armed then 1 else 0 := by
  unfold State.armed
  rw [(List.perm_cons_erase hmem).countP_eq, List.countP_cons]

theorem armed_replace (hmem : c ∈ s.composed) (c' : Composition)
    : (s.replace c c').armed + (if c.armed then 1 else 0)
        =
      s.armed + if c'.armed then 1 else 0 := by
  rw [armed_erase hmem]
  simp only [State.armed, State.replace, List.countP_cons]
  omega

theorem OpenBudget.scanDelivered (h : OpenBudget s) (result : ScanResult)
    (analyzerType : AnalyzerType)
    (hguard : ComposesScanOnce s (.scanDelivered result analyzerType))
    : OpenBudget (s.onScanResult result analyzerType) := by
  have hscans : (s.onScanResult result analyzerType).qrScans
      = s.qrScans + if result.isQr then 1 else 0 := by
    simp [State.qrScans, State.onScanResult, State.navigate, List.countP_append,
      List.countP_singleton]
  have hretains : (s.onScanResult result analyzerType).retainsQr = result.isQr := by
    simp [State.retainsQr, State.onScanResult, State.navigate, ResultViewModel.setResult]
  constructor
  . intro c hc
    have hold := h.upToDate c hc
    refine ⟨hold.other, ?_, hold.keyed⟩
    intro hroute hqr
    rw [hretains] at hqr
    exact hguard hqr c hc hroute
  . rw [hscans]
    have := h.budget
    change s.opened.length + s.armed + _ ≤ _
    cases hqr : result.isQr with
    | false =>
      rw [hqr] at hretains
      rw [credit_eq_zero hretains]
      omega
    | true =>
      have := credit_le_one (s := s.onScanResult result analyzerType)
      simp only [↓reduceIte]
      omega

theorem upToDate_composition (entry : Entry) (composed : List Composition) (unseen : Option Nat)
    : (s.composition entry).UpToDate { s with composed := composed, unseen := unseen } := by
  unfold State.composition
  split
  . next hroute =>
    constructor
    . intro hother
      exact absurd hroute hother
    . intro _ _
      rfl
    . intro _
      simp [Composition.resultScreen]
  . next hroute =>
    constructor
    . intro _
      rfl
    . intro hresult
      exact absurd hresult hroute
    . intro hqr
      contradiction

theorem armed_composition (entry : Entry)
    : (s.composition entry).armed = true → entry.route = .result ∧ s.retainsQr = true := by
  intro harmed
  unfold State.composition at harmed
  split at harmed
  . next hroute =>
    simp only [Composition.armed, Bool.and_eq_true] at harmed
    exact ⟨hroute, harmed.2⟩
  . contradiction

theorem credit_composed_le (entry : Entry) (composed : List Composition)
    : State.credit
        {
          s with
          composed := composed
          unseen := if s.unseen = some entry.id then none else s.unseen
        } ≤ s.credit := by
  by_cases hseen : s.unseen = some entry.id
  . simp only [hseen, ↓reduceIte, State.credit, Option.isSome_none, Bool.false_eq_true, and_false]
    omega
  . simp only [hseen, ↓reduceIte]
    exact Nat.le_refl s.credit

theorem OpenBudget.enter (h : OpenBudget s) (entry : Entry)
    (hguard : ComposesScanOnce s (.enter entry))
    : OpenBudget
        {
          s with
          composed := s.composed ++ [s.composition entry]
          unseen := if s.unseen = some entry.id then none else s.unseen
        } := by
  constructor
  . intro c hc
    simp only [List.mem_append, List.mem_singleton] at hc
    rcases hc with hc | rfl
    . have hold := h.upToDate c hc
      exact ⟨hold.other, hold.collected, hold.keyed⟩
    . apply upToDate_composition
  . have hbudget := h.budget
    simp only [State.armed, List.countP_append, List.countP_singleton]
    change s.opened.length + (s.armed + _) + State.credit _ ≤ s.qrScans
    split
    . next harmed =>
      -- The credit of the scan goes to the effect.
      rcases armed_composition entry harmed with ⟨hroute, hqr⟩
      have hunseen := hguard hroute hqr
      simp only [State.credit, hunseen, hqr, Option.isSome_some, and_self, ↓reduceIte] at hbudget
      simp only [hunseen, ↓reduceIte, State.credit, Option.isSome_none, Bool.false_eq_true,
        and_false]
      omega
    . have := credit_composed_le (s := s) entry (s.composed ++ [s.composition entry])
      omega

theorem OpenBudget.replace (h : OpenBudget s) (hmem : c ∈ s.composed) (hnew : c'.UpToDate s)
    (harmed : c'.armed = true → c.armed = true) : OpenBudget (s.replace c c') := by
  constructor
  . intro other hother
    simp only [State.replace, List.mem_cons] at hother
    rcases hother with rfl | hother
    . exact ⟨hnew.other, hnew.collected, hnew.keyed⟩
    . have hold := h.upToDate other (List.mem_of_mem_erase hother)
      exact ⟨hold.other, hold.collected, hold.keyed⟩
  . have hbudget := h.budget
    have hcount := armed_replace hmem c'
    change s.opened.length + (s.replace c c').armed + s.credit ≤ s.qrScans
    split at hcount
    . split at hcount <;> omega
    . next hunarmed =>
      split at hcount
      . next hcontra => exact absurd (harmed hcontra) hunarmed
      . omega

theorem Composition.UpToDate.ran (h : c.UpToDate s)
    : Composition.UpToDate { c with effect := c.effect.ran } s := by
  constructor
  . intro _
    rfl
  . exact h.collected
  . exact h.keyed

theorem OpenBudget.opened (h : OpenBudget s) (hmem : c ∈ s.composed)
    (hscheduled : c.effect.scheduled = some ()) {rawValue : String} {frame : Option Bitmap}
    (hqr : c.scanResult = some (.qrResult rawValue frame))
    : OpenBudget ((s.replace c { c with effect := c.effect.ran }).processQr rawValue) := by
  have hreplace : OpenBudget (s.replace c { c with effect := c.effect.ran }) := by
    apply h.replace hmem (h.upToDate c hmem).ran
    simp [Composition.armed]
  have hcount := armed_replace hmem { c with effect := c.effect.ran }
  have harmed : c.armed = true := by simp [Composition.armed, hscheduled, hqr, ScanResult.isQr]
  have hran : Composition.armed { c with effect := c.effect.ran } = false := by
    simp [Composition.armed]
  constructor
  . intro other hother
    have hold := hreplace.upToDate other hother
    exact ⟨hold.other, hold.collected, hold.keyed⟩
  . have hbudget := h.budget
    simp only [harmed, hran, ↓reduceIte, Bool.false_eq_true] at hcount
    simp only [State.processQr, List.length_append, List.length_singleton]
    change s.opened.length + 1 + (s.replace c _).armed + s.credit ≤ s.qrScans
    omega

theorem OpenBudget.collectScanResult (h : OpenBudget s) (hmem : c ∈ s.composed)
    (hroute : c.entry.route = .result)
    : OpenBudget (s.replace c { c with scanResult := s.resultViewModel.scanResult }) := by
  have hold := h.upToDate c hmem
  cases hqr : s.retainsQr with
  | true =>
    have hsame := hold.collected hroute hqr
    apply h.replace hmem
    . rw [← hsame]
      exact hold
    . rw [← hsame]
      exact id
  | false =>
    apply h.replace hmem
    . constructor
      . intro hother
        exact absurd hroute hother
      . intro _ _
        rfl
      . intro hcontra
        change s.retainsQr = true at hcontra
        rw [hqr] at hcontra
        contradiction
    . intro hcontra
      simp only [Composition.armed, Bool.and_eq_true] at hcontra
      have := hcontra.2
      change s.retainsQr = true at this
      rw [hqr] at this
      contradiction

theorem OpenBudget.recompose (h : OpenBudget s) (hmem : c ∈ s.composed)
    (hroute : c.entry.route = .result) : OpenBudget (s.replace c c.resultScreen) := by
  have hold := h.upToDate c hmem
  have hsame (hqr : c.scanResult.any (·.isQr) = true) : c.resultScreen = c := by
    unfold Composition.resultScreen
    rw [LaunchedEffect.compose_same (hold.keyed hqr)]
  apply h.replace hmem
  . constructor
    . intro hother
      exact absurd hroute hother
    . exact hold.collected
    . intro _
      simp [Composition.resultScreen]
  . intro harmed
    have hqr : c.scanResult.any (·.isQr) = true := by
      simp only [Composition.armed, Bool.and_eq_true] at harmed
      exact harmed.2
    rw [hsame hqr] at harmed
    exact harmed

theorem OpenBudget.dropped (h : OpenBudget s) {composed : List Composition}
    (hsub : composed.Sublist s.composed) : OpenBudget { s with composed := composed } := by
  constructor
  . intro c hc
    have hold := h.upToDate c (hsub.subset hc)
    exact ⟨hold.other, hold.collected, hold.keyed⟩
  . have := h.budget
    have : composed.countP (·.armed) ≤ s.armed := hsub.countP_le
    change s.opened.length + composed.countP (·.armed) + s.credit ≤ s.qrScans
    omega

theorem OpenBudget.step (h : OpenBudget s) (hguard : ComposesScanOnce s e) (hs : Step s e s')
    : OpenBudget s' := by
  cases hs with
  | scanDelivered result analyzerType => apply h.scanDelivered result analyzerType hguard
  | enter entry => apply h.enter entry hguard
  | leave c => apply h.dropped List.erase_sublist
  | recreated => apply h.dropped (List.nil_sublist _)
  | restarted =>
    refine ⟨?_, (h.dropped (List.nil_sublist _)).budget⟩
    intro c hc
    contradiction
  | collectScanResult c hmem hroute => apply h.collectScanResult hmem hroute
  | recompose c hmem hroute => apply h.recompose hmem hroute
  | opened c hmem _ hscheduled rawValue frame hqr => apply h.opened hmem hscheduled hqr
  | ran c hmem =>
    apply h.replace hmem
    . exact (h.upToDate c hmem).ran
    . simp [Composition.armed]
  | systemBackLast => exact h
  | _ =>
    refine ⟨?_, h.budget⟩
    intro c hc
    have hold := h.upToDate c hc
    exact ⟨hold.other, hold.collected, hold.keyed⟩

end

theorem openedOncePerScan_of_meets (es : List Event) (h : Meets step ComposesScanOnce init es)
    : Always step OpenedOncePerScan init es := by
  apply always_of_meets (I := OpenBudget) (G := ComposesScanOnce)
  . intro s hs
    have := hs.budget
    unfold OpenedOncePerScan
    omega
  . intro s e s' hs hguard hstep
    apply hs.step hguard (Step.of_step hstep)
  . exact openBudget_init
  . exact h

def scanThenText : List Event :=
  let qr : ScanResult := .qrResult "tel:1" none
  let text : ScanResult := .textResult "note" none
  let first : Composition := ⟨⟨1, .result⟩, some qr, ⟨some (some qr), some ()⟩⟩
  let second : Composition := ⟨⟨2, .result⟩, some text, ⟨some (some text), some ()⟩⟩
  [
    .scanDelivered qr .qr, .enter ⟨1, .result⟩, .runEffect first,
    .leave { first with effect := first.effect.ran }, .systemBack, .scanDelivered text .text,
    .enter ⟨2, .result⟩, .runEffect second, .recreate, .enter ⟨2, .result⟩, .runEffect second
  ]

theorem scanThenText_openedOnce : Always step OpenedOncePerScan init scanThenText := by
  apply openedOncePerScan_of_meets
  decide

-- One scan, and the activity is recreated while its Result screen is shown.
def recreated : List Event :=
  let qr : ScanResult := .qrResult "tel:1" none
  let result : Composition := ⟨⟨1, .result⟩, some qr, ⟨some (some qr), some ()⟩⟩
  [
    .scanDelivered qr .qr, .enter ⟨1, .result⟩, .runEffect result, .recreate,
    .enter ⟨1, .result⟩, .runEffect result
  ]

theorem recreated_opens_twice : ¬ Always step OpenedOncePerScan init recreated := by
  apply not_always_of_any
  decide

end App
end MeeScanner
