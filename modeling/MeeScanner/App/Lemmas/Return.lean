import MeeScanner.App.Lemmas.Step
import MeeScanner.Reaches

/-!
This module contains the way back to Home. A click on back takes everything off the stack, Home as
well, and a recreated activity starts with Home where nothing is left. A Result screen can do
neither: once nothing else is on the stack and in the composition, it stays so for good.
-/

open Transition

namespace MeeScanner
namespace App

def HomeAlone (s : State) : Prop :=
  ∃ entry, entry.route = .home ∧ s.backStack = [entry] ∧ s.composed = [{ entry := entry }]

def OnlyResults (s : State) : Prop :=
  s.backStack ≠ []
    ∧ (∀ entry ∈ s.backStack, entry.route = .result)
    ∧ ∀ c ∈ s.composed, c.entry.route = .result

instance : DecidablePred OnlyResults := by
  intro s
  unfold OnlyResults
  infer_instance

-- The activity is recreated and shows the entry.
def State.restored (s : State) (entry : Entry) : State :=
  {
    s with
    composed := [s.composition entry]
    unseen := if s.unseen = some entry.id then none else s.unseen
  }

-- Home is pushed on an empty stack only.
def HomeBelow (s : State) : Prop := ∀ entry ∈ s.backStack.tail, entry.route ≠ .home

theorem homeBelow_init : HomeBelow init := by
  intro entry hmem
  contradiction

section

variable {s s' : State} {e : Event}

theorem HomeBelow.pushed (h : HomeBelow s) (entry : Entry) (hroute : entry.route ≠ .home)
    (hstack : s'.backStack = s.backStack ++ [entry]) : HomeBelow s' := by
  intro other hother
  rw [hstack] at hother
  cases hentries : s.backStack with
  | nil =>
    rw [hentries] at hother
    contradiction
  | cons bottom entries =>
    rw [hentries, List.cons_append, List.tail_cons, List.mem_append, List.mem_singleton] at hother
    rcases hother with hother | rfl
    . apply h other
      rw [hentries]
      exact hother
    . exact hroute

theorem HomeBelow.popped (h : HomeBelow s) : HomeBelow s.popBackStack := by
  intro entry hmem
  simp only [State.popBackStack, List.tail_dropLast] at hmem
  exact h entry ((List.dropLast_sublist _).subset hmem)

theorem HomeBelow.step (h : HomeBelow s) (hs : Step s e s') : HomeBelow s' := by
  cases hs with
  | scanDelivered => exact h.pushed ⟨s.nextId, .result⟩ Route.noConfusion rfl
  | historyClick => exact h.pushed ⟨s.nextId, .history⟩ Route.noConfusion rfl
  | backClick => exact h.popped
  | systemBack => exact h.popped
  | restarted hempty =>
    intro entry hmem
    simp [State.navigate, hempty] at hmem
  | _ => exact h

theorem HomeBelow.eq_singleton (h : HomeBelow s) {entry : Entry} (hroute : entry.route = .home)
    (hlast : s.backStack.getLast? = some entry) : s.backStack = [entry] := by
  cases hstack : s.backStack with
  | nil =>
    rw [hstack] at hlast
    contradiction
  | cons bottom entries =>
    rw [hstack] at hlast
    cases entries with
    | nil =>
      simp only [List.getLast?_singleton, Option.some.injEq] at hlast
      rw [hlast]
    | cons other entries =>
      rw [List.getLast?_cons_cons] at hlast
      have hmem : entry ∈ s.backStack.tail := by
        rw [hstack]
        exact List.mem_of_getLast? hlast
      exact absurd hroute (h entry hmem)

theorem OnlyResults.compositions (h : OnlyResults s) (hstack : s'.backStack = s.backStack)
    (hcomposed : ∀ c ∈ s'.composed,
      c.entry ∈ s.composed.map (·.entry) ∨ c.entry ∈ s.backStack)
    : OnlyResults s' := by
  rcases h with ⟨hne, hentries, hresults⟩
  refine ⟨by rwa [hstack], by rwa [hstack], ?_⟩
  intro c hc
  rcases hcomposed c hc with hold | hentry
  . rw [List.mem_map] at hold
    rcases hold with ⟨d, hd, hsame⟩
    rw [← hsame]
    exact hresults d hd
  . exact hentries c.entry hentry

theorem OnlyResults.replace (h : OnlyResults s) {c c' : Composition} (hmem : c ∈ s.composed)
    (hentry : c'.entry = c.entry) : OnlyResults (s.replace c c') := by
  apply h.compositions
  . rfl
  . intro d hd
    rw [State.replace, List.mem_cons] at hd
    apply Or.inl
    rcases hd with rfl | hd
    . rw [hentry]
      exact List.mem_map_of_mem hmem
    . exact List.mem_map_of_mem (List.mem_of_mem_erase hd)

theorem OnlyResults.step (h : OnlyResults s) (hs : Step s e s') : OnlyResults s' := by
  have hother : ∀ c ∈ s.composed, ∀ route, c.entry.route = route → route = .result := by
    intro c hc route hroute
    rw [← hroute]
    exact h.2.2 c hc
  cases hs with
  | scanDelivered =>
    refine ⟨List.append_ne_nil_of_right_ne_nil _ (List.cons_ne_nil _ _), ?_, h.2.2⟩
    intro entry hmem
    rw [State.onScanResult, State.navigate, List.mem_append, List.mem_singleton] at hmem
    rcases hmem with hmem | rfl
    . exact h.2.1 entry hmem
    . rfl
  | historyClick c hc hroute => exact absurd (hother c hc _ hroute) (by decide)
  | backClick c hc hroute => exact absurd (hother c hc _ hroute) (by decide)
  | systemBack hmany =>
    refine ⟨?_, ?_, h.2.2⟩
    . intro hempty
      have hlength := congrArg List.length hempty
      simp only [State.popBackStack, List.length_dropLast, List.length_nil] at hlength
      omega
    . intro entry hmem
      exact h.2.1 entry ((List.dropLast_sublist _).subset hmem)
  | systemBackLast => exact h
  | enter entry hmem =>
    refine h.compositions rfl ?_
    intro c hc
    rw [List.mem_append, List.mem_singleton] at hc
    rcases hc with hc | rfl
    . exact Or.inl (List.mem_map_of_mem hc)
    . rw [State.composition_entry]
      exact Or.inr hmem
  | leave c =>
    refine h.compositions rfl ?_
    intro d hd
    exact Or.inl (List.mem_map_of_mem (List.mem_of_mem_erase hd))
  | recreated =>
    refine h.compositions rfl ?_
    intro c hc
    contradiction
  | restarted hempty => exact absurd hempty h.1
  | collectScanResult c hc => exact h.replace hc rfl
  | recompose c hc => exact h.replace hc rfl
  | opened c hc => exact h.replace hc rfl
  | ran c hc => exact h.replace hc rfl

theorem OnlyResults.not_homeAlone (h : OnlyResults s) : ¬ HomeAlone s := by
  rintro ⟨entry, hroute, hstack, _⟩
  have hresult := h.2.1 entry (by rw [hstack]; exact List.mem_singleton_self _)
  rw [hroute] at hresult
  contradiction

theorem reaches_restored {entry : Entry} (hmem : entry ∈ s.backStack)
    : Reaches step s (s.restored entry) := by
  have hstack : s.backStack ≠ [] := List.ne_nil_of_mem hmem
  apply Reaches.of_exec [.recreate, .enter entry]
  simp only [exec_cons, exec_nil, step, State.recreate, hstack, ↓reduceIte, Option.bind_some,
    State.enter, hmem, List.not_mem_nil, IsEmpty.forall_iff, implies_true, and_self,
    List.nil_append]
  rfl

theorem composed_restored {entry : Entry} (hroute : entry.route ≠ .result)
    : (s.restored entry).composed = [{ entry := entry }] := by
  simp only [State.restored, State.composition]

theorem reaches_alone_of_home {entry : Entry} (hroute : entry.route = .home)
    (hstack : s.backStack = [entry]) : ∃ t, Reaches step s t ∧ HomeAlone t := by
  have hmem : entry ∈ s.backStack := by simp [hstack]
  refine ⟨s.restored entry, reaches_restored hmem, entry, hroute, hstack, ?_⟩
  apply composed_restored
  rw [hroute]
  exact Route.noConfusion

theorem reaches_alone_of_nil (hempty : s.backStack = [])
    : ∃ t, Reaches step s t ∧ HomeAlone t := by
  have hrecreated : s.recreate.backStack = [⟨s.nextId, .home⟩] := by
    simp [State.recreate, State.navigate, hempty]
  have hst : Reaches step s s.recreate := Reaches.of_step (e := .recreate) rfl
  exact hst.exists_trans (reaches_alone_of_home rfl hrecreated)

theorem reaches_nil {c : Composition} (hmem : c ∈ s.composed) (hroute : c.entry.route = .history)
    : ∃ t, Reaches step s t ∧ t.backStack = [] := by
  have hcloser : ∀ t, c ∈ t.composed → ¬ t.backStack = [] →
      ∃ u, Reaches step t u ∧ c ∈ u.composed ∧ u.backStack.length < t.backStack.length := by
    intro t ht hstack
    have hback : step t (.backClick c) = some t.popBackStack := if_pos ⟨ht, hroute⟩
    refine ⟨t.popBackStack, Reaches.of_step hback, ht, ?_⟩
    have hpos := List.length_pos_of_ne_nil hstack
    simp only [State.popBackStack, List.length_dropLast]
    omega
  rcases reaches_of_closer (I := fun t : State => c ∈ t.composed)
    (P := fun t => t.backStack = []) (fun t => t.backStack.length) hcloser hmem with
    ⟨t, hst, _, hempty⟩
  exact ⟨t, hst, hempty⟩

theorem reaches_nil_of_history {entry : Entry} (hroute : entry.route = .history)
    (hmem : entry ∈ s.backStack) : ∃ t, Reaches step s t ∧ t.backStack = [] := by
  have hcomposed : { entry := entry } ∈ (s.restored entry).composed := by
    rw [composed_restored (by simp [hroute])]
    exact List.mem_singleton_self _
  exact (reaches_restored hmem).exists_trans (reaches_nil hcomposed hroute)

theorem HomeBelow.uncovered (h : HomeBelow s) {entry : Entry} (hmem : entry ∈ s.backStack)
    (hroute : entry.route ≠ .result)
    (hcovered : ¬ ∃ entry, s.backStack.getLast? = some entry ∧ entry.route ≠ .result)
    : App.step s .systemBack = some s.popBackStack ∧ HomeBelow s.popBackStack
        ∧ entry ∈ s.popBackStack.backStack
        ∧ s.popBackStack.backStack.length < s.backStack.length := by
  rcases List.eq_nil_or_concat s.backStack with hnil | ⟨entries, top, hstack⟩
  . rw [hnil] at hmem
    contradiction
  . rw [List.concat_eq_append] at hstack
    have hpopped : s.popBackStack.backStack = entries := by simp [State.popBackStack, hstack]
    have hbelow : entry ∈ entries := by
      rw [hstack, List.mem_append, List.mem_singleton] at hmem
      rcases hmem with hmem | rfl
      . exact hmem
      . exact absurd ⟨entry, by simp [hstack], hroute⟩ hcovered
    have hpos := List.length_pos_of_mem hbelow
    have hlength : s.backStack.length = entries.length + 1 := by simp [hstack]
    rw [hpopped]
    exact ⟨if_pos (by omega), h.popped, hbelow, by omega⟩

-- System back takes the Result screens off that are above everything else.
theorem reaches_top (h : HomeBelow s) (hother : ∃ entry ∈ s.backStack, entry.route ≠ .result)
    : ∃ t, Reaches step s t ∧ HomeBelow t
        ∧ ∃ entry, t.backStack.getLast? = some entry ∧ entry.route ≠ .result := by
  have hcloser : ∀ t, (HomeBelow t ∧ ∃ entry ∈ t.backStack, entry.route ≠ .result) →
      ¬ (∃ entry, t.backStack.getLast? = some entry ∧ entry.route ≠ .result) →
      ∃ u, Reaches step t u ∧ (HomeBelow u ∧ ∃ entry ∈ u.backStack, entry.route ≠ .result)
        ∧ u.backStack.length < t.backStack.length := by
    rintro t ⟨hbelow, entry, hmem, hroute⟩ hcovered
    rcases hbelow.uncovered hmem hroute hcovered with ⟨hback, hpopped, hkept, hlt⟩
    exact ⟨t.popBackStack, Reaches.of_step hback, ⟨hpopped, entry, hkept, hroute⟩, hlt⟩
  rcases reaches_of_closer (fun t : State => t.backStack.length) hcloser ⟨h, hother⟩ with
    ⟨t, hst, ht, htop⟩
  exact ⟨t, hst, ht.1, htop⟩

theorem reaches_alone_of_history {entry : Entry} (hroute : entry.route = .history)
    (hmem : entry ∈ s.backStack) : ∃ t, Reaches step s t ∧ HomeAlone t := by
  rcases reaches_nil_of_history hroute hmem with ⟨t, hst, hempty⟩
  exact hst.exists_trans (reaches_alone_of_nil hempty)

theorem reaches_alone_of_entry (h : HomeBelow s)
    (hother : ∃ entry ∈ s.backStack, entry.route ≠ .result)
    : ∃ t, Reaches step s t ∧ HomeAlone t := by
  rcases reaches_top h hother with ⟨t, hst, ht, entry, hlast, hroute⟩
  apply hst.exists_trans
  cases hentry : entry.route with
  | home => exact reaches_alone_of_home hentry (ht.eq_singleton hentry hlast)
  | history => exact reaches_alone_of_history hentry (List.mem_of_getLast? hlast)
  | result => exact absurd hentry hroute

theorem reaches_alone_of_composed {c : Composition} (hmem : c ∈ s.composed)
    (hother : c.entry.route ≠ .result) : ∃ t, Reaches step s t ∧ HomeAlone t := by
  cases hroute : c.entry.route with
  | home =>
    have hclicked : step s (.historyClick c) = some (s.navigate .history) := if_pos ⟨hmem, hroute⟩
    have hpushed : ⟨s.nextId, .history⟩ ∈ (s.navigate .history).backStack :=
      List.mem_append_right _ (List.mem_singleton_self _)
    exact (Reaches.of_step hclicked).exists_trans (reaches_alone_of_history rfl hpushed)
  | history =>
    rcases reaches_nil hmem hroute with ⟨t, hst, hempty⟩
    exact hst.exists_trans (reaches_alone_of_nil hempty)
  | result => exact absurd hroute hother

theorem reaches_alone (h : HomeBelow s) (hother : ¬ OnlyResults s)
    : ∃ t, Reaches step s t ∧ HomeAlone t := by
  by_cases hempty : s.backStack = []
  . exact reaches_alone_of_nil hempty
  . by_cases hentries : ∀ entry ∈ s.backStack, entry.route = .result
    . have hcomposed : ∃ c ∈ s.composed, c.entry.route ≠ .result := by
        by_contra hresults
        push Not at hresults
        exact hother ⟨hempty, hentries, hresults⟩
      rcases hcomposed with ⟨c, hc, hroute⟩
      exact reaches_alone_of_composed hc hroute
    . push Not at hentries
      exact reaches_alone_of_entry h hentries

end

/--
From every reachable state Home can come back, if need be by clicks on back and a recreation, unless
Result screens are all there is: then no run brings it back.
-/
theorem returnsHome_iff (es : List Event) (s : State) (hexec : exec step init es = some s)
    : (∃ s', Reaches step s s' ∧ HomeAlone s') ↔ ¬ OnlyResults s := by
  constructor
  . rintro ⟨s', hreaches, halone⟩ honly
    have hkept : OnlyResults s' := by
      apply hreaches.inv _ honly
      intro t e t' ht hs
      exact ht.step (Step.of_step hs)
    exact hkept.not_homeAlone halone
  . intro hother
    have hbelow : HomeBelow s := by
      apply inv_of_exec _ homeBelow_init hexec
      intro t e t' ht hs
      exact ht.step (Step.of_step hs)
    exact reaches_alone hbelow hother

-- Two clicks on back empty the stack, then a task that was started on Home delivers its scan.
def lateScan : List Event :=
  let home : Composition := { entry := ⟨0, .home⟩ }
  let history : Composition := { entry := ⟨1, .history⟩ }
  [
    .enter ⟨0, .home⟩, .historyClick home, .enter ⟨1, .history⟩, .leave home, .backClick history,
    .backClick history, .scanDelivered (.textResult "note" none) .text, .leave history,
    .enter ⟨2, .result⟩
  ]

def afterLateScan : State := (exec step init lateScan).get (by decide)

example : OnlyResults afterLateScan := by decide

theorem lateScan_returnsHome
    : (∃ s', Reaches step afterLateScan s' ∧ HomeAlone s') ↔ ¬ OnlyResults afterLateScan := by
  apply returnsHome_iff lateScan _ (Option.some_get _).symm

end App
end MeeScanner
