import MeeScanner.Transition

/-!
This module contains what a system can still do: `Reaches step s s'` says that some run leads from
`s` to `s'`. A state is recovered from by a run that exists, other runs may never get there.
-/

namespace Transition

universe u v

variable {σ : Type u} {ε : Type v}

def Reaches (step : σ → ε → Option σ) (s s' : σ) : Prop := ∃ es, exec step s es = some s'

variable {step : σ → ε → Option σ} {P I : σ → Prop} {s s' t : σ}

theorem Reaches.of_exec (es : List ε) (hexec : exec step s es = some s') : Reaches step s s' := by
  exact ⟨es, hexec⟩

theorem Reaches.of_step {e : ε} (hstep : step s e = some s') : Reaches step s s' := by
  exact ⟨[e], by rw [exec_singleton, hstep]⟩

theorem Reaches.refl (s : σ) : Reaches step s s := by
  exact ⟨[], rfl⟩

theorem Reaches.trans (h : Reaches step s t) (h' : Reaches step t s') : Reaches step s s' := by
  rcases h with ⟨es, hes⟩
  rcases h' with ⟨fs, hfs⟩
  refine ⟨es ++ fs, ?_⟩
  rw [exec_append, hes]
  exact hfs

theorem Reaches.exists_trans (h : Reaches step s t) (hrest : ∃ u, Reaches step t u ∧ P u)
    : ∃ u, Reaches step s u ∧ P u := by
  rcases hrest with ⟨u, htu, hu⟩
  exact ⟨u, h.trans htu, hu⟩

theorem Reaches.inv (h : Reaches step s s') (hstep : ∀ s e s', I s → step s e = some s' → I s')
    (hinit : I s) : I s' := by
  rcases h with ⟨es, hexec⟩
  exact inv_of_exec hstep hinit hexec

-- The rule for recovery: where `P` does not hold yet, some run gets closer to it.
theorem reaches_of_closer (measure : σ → Nat)
    (hcloser : ∀ s, I s → ¬ P s → ∃ s', Reaches step s s' ∧ I s' ∧ measure s' < measure s)
    (hinit : I s) : ∃ s', Reaches step s s' ∧ I s' ∧ P s' := by
  induction hn : measure s using Nat.strongRecOn generalizing s with
  | ind n ih =>
    by_cases hP : P s
    . exact ⟨s, Reaches.refl s, hinit, hP⟩
    . rcases hcloser s hinit hP with ⟨t, hst, ht, hlt⟩
      rcases ih (measure t) (hn ▸ hlt) ht rfl with ⟨s', hts, hs', hP'⟩
      exact ⟨s', hst.trans hts, hs', hP'⟩

end Transition
