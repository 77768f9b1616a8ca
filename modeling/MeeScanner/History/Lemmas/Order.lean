import MeeScanner.History.Lemmas.Step

/-!
This module contains the order in which the collections of `loadHistory` write `historyUiState`.
None of them is cancelled and all write the same flow.
-/

open Transition

namespace MeeScanner
namespace History

def Write.Follows : Write → Write → Prop
  | .success earlier, .success later => earlier ≤ later
  | .success _, .error newestFailed => newestFailed = true
  | _, _ => True

instance : DecidableRel Write.Follows := by
  intro a b
  unfold Write.Follows
  split <;> infer_instance

def InTime (s : State) : Prop := s.writes.Pairwise Write.Follows

instance : DecidablePred InTime := by
  intro s
  unfold InTime
  infer_instance

/-
A collection delivers a snapshot only where no other has delivered a newer one, and where something
was delivered only the newest collection fails, or any after it.
-/
def DeliversInOrder (s : State) : Event → Prop
  | .collected _ version _ => ∀ c ∈ s.collectors, ∀ last, c.last = some last → last ≤ version
  | .failed collector _ =>
    (∀ c ∈ s.collectors, c.last = none)
      ∨ collector + 1 = s.collectors.length ∨ s.newestFailed = true
  | _ => True

structure Logged (s : State) : Prop where
  inTime : InTime s
  delivered : ∀ version, .success version ∈ s.writes →
    ∃ c ∈ s.collectors, ∃ last, c.last = some last ∧ version ≤ last
  written : ∀ c ∈ s.collectors, ∀ last, c.last = some last → .success last ∈ s.writes

theorem logged_init : Logged init := by
  constructor <;> simp [init, InTime]

section

variable {s s' : State} {e : Event}

theorem lt_length {collector : Nat} {c : Collector} (hc : s.collectors[collector]? = some c)
    : collector < s.collectors.length := by
  rw [List.getElem?_eq_some_iff] at hc
  exact hc.1

theorem newestFailed_markFailed {collector : Nat} {c : Collector}
    (hc : s.collectors[collector]? = some c)
    : (s.markFailed collector c).newestFailed = true
        ↔
      collector + 1 = s.collectors.length ∨ s.newestFailed = true := by
  have hlt := lt_length hc
  simp only [State.newestFailed, State.markFailed, List.getLast?_eq_getElem?, List.length_set,
    List.getElem?_set]
  split
  . next hlast =>
    have : collector + 1 = s.collectors.length := by omega
    simp [this]
  . next hlast =>
    have : collector + 1 ≠ s.collectors.length := by omega
    simp [this]

theorem inTime_append {writes : List Write} {write : Write} (h : writes.Pairwise Write.Follows)
    (hwrite : ∀ earlier ∈ writes, earlier.Follows write)
    : (writes ++ [write]).Pairwise Write.Follows := by
  rw [List.pairwise_append]
  refine ⟨h, List.pairwise_singleton _ _, ?_⟩
  intro earlier hearlier later hlater
  simp only [List.mem_singleton] at hlater
  rw [hlater]
  apply hwrite earlier hearlier

theorem follows_of_inTime {writes : List Write} {earlier write : Write}
    (h : (writes ++ [write]).Pairwise Write.Follows) (hmem : earlier ∈ writes)
    : earlier.Follows write := by
  rw [List.pairwise_append] at h
  apply h.2.2 earlier hmem write
  apply List.mem_singleton_self

theorem Logged.wrote (h : Logged s) (write : Write) (hother : ∀ version, write ≠ .success version)
    (hfollows : ∀ earlier ∈ s.writes, earlier.Follows write)
    (hwrites : s'.writes = s.writes ++ [write])
    (hfrom : ∀ c ∈ s.collectors, ∃ c' ∈ s'.collectors, c'.last = c.last)
    (hto : ∀ c' ∈ s'.collectors, c'.last = none ∨ ∃ c ∈ s.collectors, c'.last = c.last)
    : Logged s' := by
  constructor
  . unfold InTime
    rw [hwrites]
    apply inTime_append h.inTime hfollows
  . intro version hversion
    rw [hwrites, List.mem_append, List.mem_singleton] at hversion
    rcases hversion with hversion | hversion
    . rcases h.delivered version hversion with ⟨c, hc, last, hlast, hle⟩
      rcases hfrom c hc with ⟨c', hc', hsame⟩
      exact ⟨c', hc', last, hsame.trans hlast, hle⟩
    . exact absurd hversion.symm (hother version)
  . intro c' hc' last hlast
    rw [hwrites, List.mem_append]
    apply Or.inl
    rcases hto c' hc' with hnone | ⟨c, hc, hsame⟩
    . rw [hnone] at hlast
      contradiction
    . apply h.written c hc
      rw [← hsame, hlast]

theorem Logged.deliver (h : Logged s) {collector : Nat} {c : Collector} {version : Nat}
    {rows : List ScanHistoryEntity} (hc : s.collectors[collector]? = some c)
    (hguard : ∀ c ∈ s.collectors, ∀ last, c.last = some last → last ≤ version)
    : Logged (s.deliver collector c version rows) := by
  have hle : ∀ earlier, .success earlier ∈ s.writes → earlier ≤ version := by
    intro earlier hearlier
    rcases h.delivered earlier hearlier with ⟨c, hc, last, hlast, hle⟩
    have := hguard c hc last hlast
    omega
  constructor
  . apply inTime_append h.inTime
    intro earlier hearlier
    cases earlier with
    | success earlier => apply hle earlier hearlier
    | loading => trivial
    | error => trivial
  . intro earlier hearlier
    simp only [State.deliver, State.setUiState, List.mem_append, List.mem_singleton,
      Write.success.injEq] at hearlier
    refine ⟨{ c with last := some version }, ?_, version, rfl, ?_⟩
    . apply List.mem_set (lt_length hc)
    . rcases hearlier with hearlier | rfl
      . apply hle earlier hearlier
      . exact Nat.le_refl _
  . intro c' hc' last hlast
    simp only [State.deliver, State.setUiState, List.mem_append, List.mem_singleton,
      Write.success.injEq]
    rcases List.mem_or_eq_of_mem_set hc' with hold | rfl
    . apply Or.inl
      apply h.written c' hold last hlast
    . injection hlast with hlast
      exact Or.inr hlast.symm

theorem Logged.fail (h : Logged s) {collector : Nat} {c : Collector}
    (hc : s.collectors[collector]? = some c)
    (hguard : (∀ c ∈ s.collectors, c.last = none)
      ∨ collector + 1 = s.collectors.length ∨ s.newestFailed = true)
    (historyUiState : HistoryUiState)
    : Logged ((s.markFailed collector c).setUiState historyUiState
        (.error (s.markFailed collector c).newestFailed)) := by
  apply h.wrote (.error (s.markFailed collector c).newestFailed)
  . simp
  . intro earlier hearlier
    cases earlier with
    | success version =>
      rcases hguard with hnone | hguard
      . rcases h.delivered version hearlier with ⟨c, hc, last, hlast, _⟩
        rw [hnone c hc] at hlast
        contradiction
      . exact (newestFailed_markFailed hc).mpr hguard
    | loading => trivial
    | error => trivial
  . rfl
  . intro other hother
    by_cases hsame : other = c
    . refine ⟨{ c with failed := true }, ?_, ?_⟩
      . apply List.mem_set (lt_length hc)
      . rw [hsame]
    . rw [List.mem_iff_getElem?] at hother
      rcases hother with ⟨i, hi⟩
      refine ⟨other, ?_, rfl⟩
      apply List.mem_of_getElem? (i := i)
      simp only [State.setUiState, State.markFailed, List.getElem?_set]
      split
      . next heq =>
        rw [← heq, hc] at hi
        injection hi with hi
        exact absurd hi.symm hsame
      . exact hi
  . intro c' hc'
    apply Or.inr
    rcases List.mem_or_eq_of_mem_set hc' with hold | rfl
    . exact ⟨c', hold, rfl⟩
    . exact ⟨c, List.mem_of_getElem? hc, rfl⟩

theorem Logged.step (h : Logged s) (hguard : DeliversInOrder s e) (hs : Step s e s')
    : Logged s' := by
  cases hs with
  | collected collector c version rows hc => apply h.deliver hc hguard
  | failed collector c message hc => apply h.fail hc hguard
  | loaded =>
    apply h.wrote .loading
    . simp
    . intro earlier _
      cases earlier <;> trivial
    . rfl
    . intro c hc
      refine ⟨c, ?_, rfl⟩
      apply List.mem_append_left
      exact hc
    . intro c hc
      simp only [State.loadHistory, State.setUiState, List.mem_append, List.mem_singleton] at hc
      rcases hc with hc | rfl
      . exact Or.inr ⟨c, hc, rfl⟩
      . exact Or.inl rfl
  | _ => exact ⟨h.inTime, h.delivered, h.written⟩

theorem Logged.step_bad (h : Logged s) (hguard : ¬ DeliversInOrder s e) (hs : Step s e s')
    : ¬ InTime s' := by
  intro hinTime
  cases hs with
  | collected collector c version rows hc =>
    apply hguard
    intro c hc last hlast
    exact follows_of_inTime hinTime (h.written c hc last hlast)
  | failed collector c message hc =>
    apply hguard
    by_cases hnone : ∀ c ∈ s.collectors, c.last = none
    . exact Or.inl hnone
    . apply Or.inr
      simp only [not_forall] at hnone
      rcases hnone with ⟨shown, hshown, hlast⟩
      rw [← ne_eq, Option.ne_none_iff_exists'] at hlast
      rcases hlast with ⟨last, hlast⟩
      rw [← newestFailed_markFailed hc]
      exact follows_of_inTime hinTime (h.written shown hshown last hlast)
  | _ => exact hguard trivial

end

theorem inTime_iff (es : List Event)
    : Always step InTime init es ↔ Meets step DeliversInOrder init es := by
  apply always_iff_meets (I := Logged)
  . intro s h
    exact h.inTime
  . intro s e s' h hguard hs
    apply h.step hguard (Step.of_step hs)
  . intro s e s' h hguard hs
    apply h.step_bad hguard (Step.of_step hs)
  . apply logged_init

-- Two visits: the collection of the second shows the new row, and that of the first, which started
-- before the insert, delivers the empty table after it.
def staleDelivery : List Event :=
  let qr := ScanHistoryUseCase.saveHistory (.qrResult "tel:1" none) .qr 5
  [
    .enterComposition, .runLoadEffect, .leaveComposition, .enterComposition, .runLoadEffect,
    .storeResult (.qrResult "tel:1" none) .qr 5, .inserted qr 1,
    .collected 1 1 [{ qr with id := 1 }], .collected 0 0 []
  ]

theorem staleDelivery_not_inTime : ¬ Always step InTime init staleDelivery := by
  apply not_always_of_any
  decide

end History
end MeeScanner
