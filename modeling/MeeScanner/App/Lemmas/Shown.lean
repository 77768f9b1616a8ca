import MeeScanner.App.Lemmas.Step

/-!
This module contains what the Result destination has to do with the scans: the view model holds the
last one, and a composed Result screen holds one of them.
-/

open Compose

namespace MeeScanner
namespace App

structure ShowsScans (s : State) : Prop where
  current : s.resultViewModel.scanResult = s.scans.getLast?.map Prod.fst
  pushed : ∀ entry ∈ s.backStack, entry.route = .result → s.scans ≠ []
  shown : ∀ c ∈ s.composed, c.entry.route = .result → ∃ scan ∈ s.scans, c.scanResult = some scan.1
  opened : ∀ rawValue ∈ s.opened, ∃ scan ∈ s.scans, ∃ frame, scan.1 = .qrResult rawValue frame

theorem showsScans_init : ShowsScans init := by
  constructor <;> simp [init]

section

variable {s s' : State} {e : Event} {c : Composition}

theorem ShowsScans.last (h : ShowsScans s) (hscans : s.scans ≠ [])
    : ∃ scan ∈ s.scans, s.resultViewModel.scanResult = some scan.1 := by
  refine ⟨s.scans.getLast hscans, List.getLast_mem hscans, ?_⟩
  rw [h.current, List.getLast?_eq_some_getLast hscans]
  rfl

theorem ShowsScans.scanDelivered (h : ShowsScans s) (result : ScanResult)
    (analyzerType : AnalyzerType) : ShowsScans (s.onScanResult result analyzerType) := by
  have hmem : ∀ scan ∈ s.scans, scan ∈ s.scans ++ [(result, analyzerType)] := by
    intro scan hscan
    rw [List.mem_append]
    exact Or.inl hscan
  constructor
  . simp [State.onScanResult, State.navigate, ResultViewModel.setResult]
  . intro entry _ _
    simp [State.onScanResult, State.navigate]
  . intro c hc hroute
    rcases h.shown c hc hroute with ⟨scan, hscan, hresult⟩
    exact ⟨scan, hmem scan hscan, hresult⟩
  . intro rawValue hopened
    rcases h.opened rawValue hopened with ⟨scan, hscan, hqr⟩
    exact ⟨scan, hmem scan hscan, hqr⟩

theorem ShowsScans.entries (h : ShowsScans s) {backStack : List Entry} (nextId : Nat)
    (hentries : ∀ entry ∈ backStack, entry.route = .result → entry ∈ s.backStack)
    : ShowsScans { s with backStack := backStack, nextId := nextId } := by
  constructor
  . exact h.current
  . intro entry hmem hroute
    exact h.pushed entry (hentries entry hmem hroute) hroute
  . exact h.shown
  . exact h.opened

theorem ShowsScans.compositions (h : ShowsScans s) {composed : List Composition}
    (unseen : Option Nat)
    (hcomposed : ∀ c ∈ composed, c ∈ s.composed ∨ (c.entry.route = .result →
      ∃ scan ∈ s.scans, c.scanResult = some scan.1))
    : ShowsScans { s with composed := composed, unseen := unseen } := by
  constructor
  . exact h.current
  . exact h.pushed
  . intro c hc hroute
    rcases hcomposed c hc with hold | hnew
    . exact h.shown c hold hroute
    . exact hnew hroute
  . exact h.opened

theorem ShowsScans.cleared (h : ShowsScans s) : ShowsScans { s with composed := [] } := by
  apply h.compositions
  intro c hc
  contradiction

theorem ShowsScans.replace (h : ShowsScans s) {c' : Composition}
    (hresult : c'.entry.route = .result → ∃ scan ∈ s.scans, c'.scanResult = some scan.1)
    : ShowsScans (s.replace c c') := by
  apply h.compositions s.unseen
  intro d hd
  rw [List.mem_cons] at hd
  rcases hd with rfl | hd
  . exact Or.inr hresult
  . exact Or.inl (List.mem_of_mem_erase hd)

theorem ShowsScans.enter (h : ShowsScans s) {entry : Entry} (hmem : entry ∈ s.backStack)
    (unseen : Option Nat)
    : ShowsScans { s with composed := s.composed ++ [s.composition entry], unseen := unseen } := by
  apply h.compositions unseen
  intro c hc
  rw [List.mem_append, List.mem_singleton] at hc
  rcases hc with hc | rfl
  . exact Or.inl hc
  . apply Or.inr
    intro hroute
    have hentry : entry.route = .result := by
      unfold State.composition at hroute
      split at hroute
      . assumption
      . exact hroute
    have hcomposition : (s.composition entry).scanResult = s.resultViewModel.scanResult := by
      simp [State.composition, hentry, Composition.resultScreen]
    rw [hcomposition]
    exact h.last (h.pushed entry hmem hentry)

theorem ShowsScans.processQr (h : ShowsScans s) {rawValue : String}
    (hqr : ∃ scan ∈ s.scans, ∃ frame, scan.1 = .qrResult rawValue frame)
    : ShowsScans (s.processQr rawValue) := by
  constructor
  . exact h.current
  . exact h.pushed
  . exact h.shown
  . intro link hlink
    simp only [State.processQr, List.mem_append, List.mem_singleton] at hlink
    rcases hlink with hlink | rfl
    . exact h.opened link hlink
    . exact hqr

theorem ShowsScans.step (h : ShowsScans s) (hs : Step s e s') : ShowsScans s' := by
  cases hs with
  | scanDelivered result analyzerType => apply h.scanDelivered
  | historyClick =>
    apply h.entries
    intro entry hmem hroute
    rw [List.mem_append, List.mem_singleton] at hmem
    rcases hmem with hmem | rfl
    . exact hmem
    . contradiction
  | backClick =>
    apply h.entries
    intro entry hmem _
    exact (List.dropLast_sublist _).subset hmem
  | systemBack =>
    apply h.entries
    intro entry hmem _
    exact (List.dropLast_sublist _).subset hmem
  | systemBackLast => exact h
  | enter entry hmem => apply h.enter hmem
  | leave c =>
    apply h.compositions
    intro d hd
    exact Or.inl (List.mem_of_mem_erase hd)
  | recreated => exact h.cleared
  | restarted =>
    apply h.cleared.entries
    intro entry hmem hroute
    rw [List.mem_append, List.mem_singleton] at hmem
    rcases hmem with hmem | rfl
    . exact hmem
    . contradiction
  | collectScanResult c hmem hroute =>
    apply h.replace
    intro _
    rcases h.shown c hmem hroute with ⟨scan, hscan, _⟩
    exact h.last (List.ne_nil_of_mem hscan)
  | recompose c hmem => exact h.replace (h.shown c hmem)
  | opened c hmem hroute _ rawValue frame hqr =>
    rcases h.shown c hmem hroute with ⟨scan, hscan, hresult⟩
    have hreplaced : ShowsScans (s.replace c { c with effect := c.effect.ran }) :=
      h.replace (h.shown c hmem)
    apply hreplaced.processQr
    rw [hqr] at hresult
    injection hresult with hresult
    exact ⟨scan, hscan, frame, hresult.symm⟩
  | ran c hmem => exact h.replace (h.shown c hmem)

end

end App
end MeeScanner
