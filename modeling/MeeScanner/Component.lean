import MeeScanner.Transition

/-!
This module contains the theory of a system that is made of parts. A `Component` is a part that
takes each step of the system as a list of events of its own. `traces` are the lists of the steps of
a run, one after the other: a run of the system takes each of its parts along the part's traces.
-/

namespace Transition

universe u v w

section

variable {σ : Type u} {ε : Type v} {ω : Type w} (step : σ → ε → Option σ)

def traces (out : σ → ε → List ω) (s : σ) : List ε → List ω
  | [] => []
  | e :: es =>
    match step s e with
    | none => []
    | some s' => out s e ++ traces out s' es

variable {step} {out : σ → ε → List ω} {s s' t : σ} {es fs : List ε}

theorem exec_append_of (hexec : exec step s es = some t) (hrest : exec step t fs = some s')
    : exec step s (es ++ fs) = some s' := by
  rw [exec_append, hexec]
  exact hrest

theorem traces_cons {e : ε} (hstep : step s e = some s')
    : traces step out s (e :: es) = out s e ++ traces step out s' es := by
  simp only [traces, hstep]

-- The rule for a log: if each step adds to the log what its event says, so does the whole run.
theorem log_of_exec {log : σ → List ω} {entries : ε → List ω}
    (hstep : ∀ s e s', step s e = some s' → log s' = log s ++ entries e)
    (hexec : exec step s es = some s') : log s' = log s ++ es.flatMap entries := by
  induction es generalizing s with
  | nil =>
    simp only [exec_nil, Option.some.injEq] at hexec
    simp [hexec]
  | cons e es ih =>
    rw [exec_cons, Option.bind_eq_some_iff] at hexec
    rcases hexec with ⟨t, ht, hexec⟩
    rw [ih hexec, hstep s e t ht, List.flatMap_cons, List.append_assoc]

end

variable {σ : Type u} {ε : Type v} {τ φ ω : Type w}

structure Component (step : σ → ε → Option σ) (step' : τ → φ → Option τ) where
  part : σ → τ
  events : σ → ε → List φ
  exec_events : ∀ s e s', step s e = some s' → exec step' (part s) (events s e) = some (part s')

namespace Component

variable {step : σ → ε → Option σ} {step' : τ → φ → Option τ} (c : Component step step')
  {s s' : σ} {e : ε} {es : List ε}

theorem exec_traces (hexec : exec step s es = some s')
    : exec step' (c.part s) (traces step c.events s es) = some (c.part s') := by
  induction es generalizing s with
  | nil =>
    simp only [exec_nil, Option.some.injEq] at hexec
    simp [traces, hexec]
  | cons e es ih =>
    rw [exec_cons, Option.bind_eq_some_iff] at hexec
    rcases hexec with ⟨t, ht, hexec⟩
    rw [traces_cons ht]
    exact exec_append_of (c.exec_events s e t ht) (ih hexec)

theorem inv_step {I : τ → Prop} (hstep : ∀ t f t', I t → step' t f = some t' → I t')
    (hinv : I (c.part s)) (hs : step s e = some s') : I (c.part s') := by
  exact inv_of_exec hstep hinv (c.exec_events s e s' hs)

end Component
end Transition
