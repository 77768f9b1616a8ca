import MeeScanner.DetailSheet.Impl

/-!
This module contains the null check of the detail sheet. The view model writes the row before the
flag that opens the sheet, and the flag before the row when it closes. The copies follow that order
unless the collector of the later write waits ahead of the other one, from a write before.
-/

open MainQueue Transition

namespace MeeScanner
namespace DetailSheet

def NotNull (s : State) : Prop := s.sheet ≠ .nullPointerException

instance : DecidablePred NotNull := fun s =>
  inferInstanceAs (Decidable (s.sheet ≠ .nullPointerException))

-- Neither this composition throws nor one that comes after the next collector.
def NotNullNext (s : State) : Prop :=
  NotNull s ∧ ∀ s', exec step s [.resumeCollector, .recompose] = some s' → NotNull s'

-- The flag does not wait ahead of the row that it opens the sheet with, the row not ahead of the
-- flag that closes the sheet.
def CollectsInOrder (s : State) : Event → Prop
  | .onHistorySelected _ => s.inComposition = true → s.selectedHistory = none →
      .showDetailSheet ∈ s.queue → Ahead .selectedHistory .showDetailSheet s.queue
  | .historyDismiss => s.inComposition = true → s.showDetailSheet = true →
      .selectedHistory ∈ s.queue → Ahead .showDetailSheet .selectedHistory s.queue
  | _ => True

instance (s : State) : DecidablePred (CollectsInOrder s) := by
  intro e
  unfold CollectsInOrder
  split <;> infer_instance

-- The copies of a screen in the composition. `opening` and `closing` are the two orders in which the
-- collectors may wait while the flow has a value that the copy of the other flow does not go with.
structure Collected (s : State) : Prop where
  nodup : s.queue.Nodup
  row : .selectedHistory ∉ s.queue → s.selectedHistory = s.historyViewModel.selectedHistory
  flag : .showDetailSheet ∉ s.queue → s.showDetailSheet = s.historyViewModel.showDetailSheet
  safe : s.showDetailSheet = true → s.selectedHistory ≠ none
  opening : s.historyViewModel.showDetailSheet = true → s.selectedHistory = none →
    .showDetailSheet ∈ s.queue → Ahead .selectedHistory .showDetailSheet s.queue
  closing : s.historyViewModel.showDetailSheet = false → s.showDetailSheet = true →
    .selectedHistory ∈ s.queue → Ahead .showDetailSheet .selectedHistory s.queue

structure SheetInv (s : State) : Prop where
  paired : s.historyViewModel.showDetailSheet = s.historyViewModel.selectedHistory.isSome
  collected : s.inComposition = true → Collected s
  away : s.inComposition = false → s.queue = []
  notNull : NotNull s

theorem sheetInv_init : SheetInv init := by
  constructor <;> simp [init, NotNull]

section

variable {s s' : State} {e : Event}

theorem Collected.onHistorySelected (h : Collected s) (hcomp : s.inComposition = true)
    (hpaired : s.historyViewModel.showDetailSheet = s.historyViewModel.selectedHistory.isSome)
    (history : ScanHistoryEntity)
    (hguard : s.selectedHistory = none → .showDetailSheet ∈ s.queue →
      Ahead .selectedHistory .showDetailSheet s.queue)
    : Collected (s.onHistorySelected (some history)) := by
  simp only [State.onHistorySelected, State.setSelectedHistory, State.setShowDetailSheet, hcomp,
    ↓reduceIte]
  constructor
  . apply nodup_write
    apply nodup_write h.nodup
  . intro hidle
    have hfirst := not_mem_write hidle
    exact (h.row (not_mem_write hfirst)).trans (eq_of_not_mem_write hfirst)
  . intro hidle
    have hfirst := not_mem_write hidle
    exact (h.flag (not_mem_write hfirst)).trans (eq_of_not_mem_write hidle)
  . exact h.safe
  . intro _ hnone _
    by_cases hwaits : .showDetailSheet ∈ s.queue
    . apply Ahead.write
      apply Ahead.write
      apply hguard hnone hwaits
    . have hoff : s.historyViewModel.showDetailSheet = false := by
        by_contra hon
        rw [Bool.not_eq_false, ← h.flag hwaits] at hon
        exact h.safe hon hnone
      have hrow : s.historyViewModel.selectedHistory = none := by
        rw [hpaired] at hoff
        simpa using hoff
      apply ahead_write
      . simp [hoff]
      . simp [mem_write, hrow]
      . simp [mem_write, hwaits]
  . intro hcontra
    contradiction

theorem Collected.historyDismiss (h : Collected s) (hcomp : s.inComposition = true)
    (hpaired : s.historyViewModel.showDetailSheet = s.historyViewModel.selectedHistory.isSome)
    (hguard : s.showDetailSheet = true → .selectedHistory ∈ s.queue →
      Ahead .showDetailSheet .selectedHistory s.queue)
    : Collected s.historyDismiss := by
  simp only [State.historyDismiss, State.setSelectedHistory, State.setShowDetailSheet, hcomp,
    ↓reduceIte]
  constructor
  . apply nodup_write
    apply nodup_write h.nodup
  . intro hidle
    have hfirst := not_mem_write hidle
    exact (h.row (not_mem_write hfirst)).trans (eq_of_not_mem_write hidle)
  . intro hidle
    have hfirst := not_mem_write hidle
    exact (h.flag (not_mem_write hfirst)).trans (eq_of_not_mem_write hfirst)
  . exact h.safe
  . intro hcontra
    contradiction
  . intro _ hshown hmem
    by_cases hwaits : .selectedHistory ∈ s.queue
    . apply Ahead.write
      apply Ahead.write
      apply hguard hshown hwaits
    . simp only [mem_write, hwaits, false_or, reduceCtorEq, and_false, ne_eq, and_true] at hmem
      have hon : s.historyViewModel.showDetailSheet = true := by
        rw [hpaired, Option.isSome_iff_ne_none]
        exact hmem
      apply ahead_write hmem
      . simp [mem_write, hon]
      . simp [mem_write, hwaits]

theorem Collected.resumeCollector (h : Collected s)
    (hpaired : s.historyViewModel.showDetailSheet = s.historyViewModel.selectedHistory.isSome)
    {collector : Collector} {queue : List Collector} (hqueue : s.queue = collector :: queue)
    : Collected (State.collect { s with queue := queue } collector) := by
  have hnodup := h.nodup
  rw [hqueue, List.nodup_cons] at hnodup
  have hrow := h.row
  have hflag := h.flag
  have hopening := h.opening
  have hclosing := h.closing
  rw [hqueue] at hrow hflag hopening hclosing
  cases collector with
  | selectedHistory =>
    simp only [State.collect]
    constructor
    . exact hnodup.2
    . intro _
      rfl
    . intro hidle
      apply hflag
      simpa using hidle
    . intro hshown
      simp only
      cases hvm : s.historyViewModel.showDetailSheet with
      | true =>
        rw [hpaired, Option.isSome_iff_ne_none] at hvm
        exact hvm
      | false => exact absurd (hclosing hvm hshown List.mem_cons_self) not_ahead_head
    . intro hvm hnone
      simp only at hvm hnone
      rw [hpaired, hnone] at hvm
      contradiction
    . intro _ _ hmem
      exact absurd hmem hnodup.1
  | showDetailSheet =>
    simp only [State.collect]
    constructor
    . exact hnodup.2
    . intro hidle
      apply hrow
      simpa using hidle
    . intro _
      rfl
    . intro hvm hnone
      exact not_ahead_head (hopening hvm hnone List.mem_cons_self)
    . intro _ _ hmem
      exact absurd hmem hnodup.1
    . intro hoff hshown
      simp only at hoff hshown
      rw [hoff] at hshown
      contradiction

theorem notNull_historyScreen (h : s.showDetailSheet = true → s.selectedHistory ≠ none)
    : NotNull s.historyScreen := by
  unfold NotNull State.historyScreen
  simp only
  split
  . next hshown =>
    split
    . next hnone => exact absurd hnone (h hshown)
    . simp
  . simp

theorem SheetInv.resumed (h : SheetInv s) {collector : Collector} {queue : List Collector}
    (hqueue : s.queue = collector :: queue)
    : SheetInv (State.collect { s with queue := queue } collector) := by
  have hcomp : s.inComposition = true := by
    by_contra haway
    rw [Bool.not_eq_true] at haway
    rw [h.away haway] at hqueue
    contradiction
  have hcollected := (h.collected hcomp).resumeCollector h.paired hqueue
  constructor
  . simpa using h.paired
  . intro _
    exact hcollected
  . intro haway
    rw [State.collect_inComposition, hcomp] at haway
    contradiction
  . simpa [NotNull] using h.notNull

theorem SheetInv.entered (h : SheetInv s) (hcomp : s.inComposition = false)
    : SheetInv
        {
          s with
          inComposition := true
          selectedHistory := s.historyViewModel.selectedHistory
          showDetailSheet := s.historyViewModel.showDetailSheet
          : State
        }.historyScreen := by
  have hsafe : s.historyViewModel.showDetailSheet = true
      → s.historyViewModel.selectedHistory ≠ none := by
    rw [h.paired, Option.isSome_iff_ne_none]
    exact id
  constructor
  . exact h.paired
  . intro _
    constructor <;> simp [State.historyScreen, h.away hcomp]
    exact hsafe
  . intro hcontra
    contradiction
  . apply notNull_historyScreen hsafe

theorem SheetInv.step (h : SheetInv s) (hguard : CollectsInOrder s e) (hs : step s e = some s')
    : SheetInv s' := by
  cases e with
  | onHistorySelected history =>
    simp only [DetailSheet.step, Option.some.injEq] at hs
    subst hs
    constructor
    . rfl
    . intro hcomp
      exact (h.collected hcomp).onHistorySelected hcomp h.paired history (hguard hcomp)
    . intro haway
      simp only [State.onHistorySelected, State.setSelectedHistory, State.setShowDetailSheet]
        at haway ⊢
      simp [haway, h.away haway]
    . exact h.notNull
  | historyDismiss =>
    simp only [DetailSheet.step, Option.some.injEq] at hs
    subst hs
    constructor
    . rfl
    . intro hcomp
      exact (h.collected hcomp).historyDismiss hcomp h.paired (hguard hcomp)
    . intro haway
      simp only [State.historyDismiss, State.setSelectedHistory, State.setShowDetailSheet]
        at haway ⊢
      simp [haway, h.away haway]
    . exact h.notNull
  | resumeCollector =>
    simp only [DetailSheet.step, State.resumeCollector] at hs
    split at hs
    . contradiction
    . next collector queue hqueue =>
      injection hs with hs
      subst hs
      apply h.resumed hqueue
  | recompose =>
    simp only [DetailSheet.step, Option.ite_none_right_eq_some, Option.some.injEq] at hs
    rcases hs with ⟨hcomp, rfl⟩
    have := h.collected hcomp
    refine ⟨h.paired, ?_, h.away, notNull_historyScreen this.safe⟩
    intro _
    exact ⟨this.nodup, this.row, this.flag, this.safe, this.opening, this.closing⟩
  | enterComposition =>
    simp only [DetailSheet.step, State.enterComposition, Option.ite_none_left_eq_some,
      Bool.not_eq_true, Option.some.injEq] at hs
    rcases hs with ⟨hcomp, rfl⟩
    apply h.entered hcomp
  | leaveComposition =>
    simp only [DetailSheet.step, State.leaveComposition, Option.ite_none_right_eq_some,
      Option.some.injEq] at hs
    rcases hs with ⟨hcomp, rfl⟩
    refine ⟨h.paired, ?_, ?_, ?_⟩
    . intro hcontra
      contradiction
    . intro _
      rfl
    . simp [NotNull]

theorem throws_of_flag (hcomp : s.inComposition = true) {queue : List Collector}
    (hqueue : s.queue = .showDetailSheet :: queue) (hrow : s.selectedHistory = none)
    (hflag : s.historyViewModel.showDetailSheet = true) : ¬ NotNullNext s := by
  intro h
  have hnext := h.2 (State.historyScreen { s with queue := queue, showDetailSheet := true })
  apply hnext
  . simp [DetailSheet.step, State.resumeCollector, State.collect, hqueue, hcomp, hflag]
  . simp [State.historyScreen, hrow]

theorem throws_of_row (hcomp : s.inComposition = true) {queue : List Collector}
    (hqueue : s.queue = .selectedHistory :: queue) (hflag : s.showDetailSheet = true)
    (hrow : s.historyViewModel.selectedHistory = none) : ¬ NotNullNext s := by
  intro h
  have hnext := h.2 (State.historyScreen { s with queue := queue, selectedHistory := none })
  apply hnext
  . simp [DetailSheet.step, State.resumeCollector, State.collect, hqueue, hcomp, hrow]
  . simp [State.historyScreen, hflag]

theorem throws_of_selected {history : ScanHistoryEntity}
    (hguard : ¬ CollectsInOrder s (.onHistorySelected history))
    : ¬ NotNullNext (s.onHistorySelected (some history)) := by
  simp only [CollectsInOrder, not_forall] at hguard
  rcases hguard with ⟨hcomp, hrow, hmem, hahead⟩
  rcases head_of_not_ahead (by decide) (fun k _ => by cases k <;> simp) hmem hahead
    with ⟨rest, hqueue⟩
  rcases write_cons s.historyViewModel.selectedHistory (some history) .showDetailSheet rest
    .selectedHistory with ⟨rest', hfirst⟩
  rcases write_cons s.historyViewModel.showDetailSheet true .showDetailSheet rest'
    .showDetailSheet with ⟨rest'', hsecond⟩
  have hhead : (s.onHistorySelected (some history)).queue = .showDetailSheet :: rest'' := by
    simp only [State.onHistorySelected, State.setSelectedHistory, State.setShowDetailSheet, hcomp,
      ↓reduceIte, hqueue]
    rw [hfirst, hsecond]
  exact throws_of_flag hcomp hhead hrow rfl

theorem throws_of_dismissed (hguard : ¬ CollectsInOrder s .historyDismiss)
    : ¬ NotNullNext s.historyDismiss := by
  simp only [CollectsInOrder, not_forall] at hguard
  rcases hguard with ⟨hcomp, hflag, hmem, hahead⟩
  rcases head_of_not_ahead (by decide) (fun k _ => by cases k <;> simp) hmem hahead
    with ⟨rest, hqueue⟩
  rcases write_cons s.historyViewModel.showDetailSheet false .selectedHistory rest
    .showDetailSheet with ⟨rest', hfirst⟩
  rcases write_cons s.historyViewModel.selectedHistory none .selectedHistory rest'
    .selectedHistory with ⟨rest'', hsecond⟩
  have hhead : s.historyDismiss.queue = .selectedHistory :: rest'' := by
    simp only [State.historyDismiss, State.setSelectedHistory, State.setShowDetailSheet, hcomp,
      ↓reduceIte, hqueue]
    rw [hfirst, hsecond]
  exact throws_of_row hcomp hhead hflag rfl

theorem throws_of_not_meets (hguard : ¬ CollectsInOrder s e) (hs : step s e = some s')
    : ¬ NotNullNext s' := by
  cases e with
  | onHistorySelected history =>
    injection hs with hs
    rw [← hs]
    exact throws_of_selected hguard
  | historyDismiss =>
    injection hs with hs
    rw [← hs]
    exact throws_of_dismissed hguard
  | _ => exact absurd trivial hguard

theorem SheetInv.notNullNext (h : SheetInv s) : NotNullNext s := by
  refine ⟨h.notNull, ?_⟩
  intro s' hexec
  have hinv : SheetInv s' := by
    rw [exec_cons, Option.bind_eq_some_iff] at hexec
    rcases hexec with ⟨t, ht, hexec⟩
    rw [exec_cons, Option.bind_eq_some_iff] at hexec
    rcases hexec with ⟨u, hu, hexec⟩
    rw [exec_nil, Option.some.injEq] at hexec
    rw [← hexec]
    exact (h.step (e := .resumeCollector) trivial ht).step (e := .recompose) trivial hu
  exact hinv.notNull

end

theorem notNull_of_meets (es : List Event) (hmeets : Meets step CollectsInOrder init es)
    : Always step NotNull init es := by
  apply always_of_meets (I := SheetInv) _ _ sheetInv_init hmeets
  . intro s h
    exact h.notNull
  . intro s e s' h hguard hs
    exact h.step hguard hs

/-
Two rows are tapped, and the row's collector runs between the taps: for the second row it waits
behind that of the flag. The sheet comes up with the first row and is dismissed, and the row's
collector, which still waits from the second tap, copies null before the flag is off.
-/
def tappedTwice : List Event :=
  let row := ScanHistoryUseCase.saveHistory (.qrResult "upi://pay" none) .qr 1
  let other := ScanHistoryUseCase.saveHistory (.textResult "note" none) .text 2
  [
    .enterComposition, .onHistorySelected row, .resumeCollector, .onHistorySelected other,
    .resumeCollector, .recompose, .historyDismiss, .resumeCollector, .recompose
  ]

theorem tappedTwice_throws : ¬ Always step NotNull init tappedTwice := by
  apply not_always_of_any
  decide

theorem openedTwice_notNull
    : Always step NotNull init
        [
          .enterComposition, .onHistorySelected ⟨1, "QR", "QR Code", "a", 1⟩, .resumeCollector,
          .resumeCollector, .recompose, .historyDismiss, .resumeCollector, .recompose,
          .resumeCollector, .onHistorySelected ⟨2, "QR", "QR Code", "b", 2⟩, .resumeCollector,
          .resumeCollector, .recompose
        ] := by
  apply notNull_of_meets
  decide

/--
The condition is exact: one call against the order is enough for the next collector to throw.
-/
theorem notNullNext_iff (es : List Event)
    : Always step NotNullNext init es ↔ Meets step CollectsInOrder init es := by
  apply always_iff_meets (I := SheetInv)
  . intro s h
    exact h.notNullNext
  . intro s e s' h hguard hs
    exact h.step hguard hs
  . intro s e s' _ hguard hs
    exact throws_of_not_meets hguard hs
  . exact sheetInv_init

end DetailSheet
end MeeScanner
