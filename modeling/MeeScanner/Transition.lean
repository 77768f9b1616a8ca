import Mathlib.Data.List.Basic

/-!
This module contains the theory of runs of a partial step function. A run is a list of events, the
nondeterminism of a system is carried by its events, and an event that is not enabled ends the run.
`Always P` says that `P` holds in every state a run reaches, `Meets G` that every step of the run
meets `G`, a condition on the state before the step and on its event. `logged` is the same system
with a log of what its steps show to the outside.
-/

namespace Transition

universe u v w

variable {σ : Type u} {ε : Type v} (step : σ → ε → Option σ)

def exec (s : σ) : List ε → Option σ
  | [] => some s
  | e :: es => (step s e).bind fun s' => exec s' es

def Always (P : σ → Prop) (s : σ) : List ε → Prop
  | [] => P s
  | e :: es => P s ∧ ∀ s', step s e = some s' → Always P s' es

def Meets (G : σ → ε → Prop) (s : σ) : List ε → Prop
  | [] => True
  | e :: es => ∀ s', step s e = some s' → G s e ∧ Meets G s' es

variable {step} {P I : σ → Prop} {G : σ → ε → Prop}

@[simp]
theorem exec_nil (s : σ) : exec step s [] = some s := by
  rfl

@[simp]
theorem exec_cons (s : σ) (e : ε) (es : List ε)
    : exec step s (e :: es) = (step s e).bind fun s' => exec step s' es := by
  rfl

@[simp]
theorem exec_singleton (s : σ) (e : ε) : exec step s [e] = step s e := by
  simp only [exec_cons, exec_nil, Option.bind_fun_some]

theorem exec_append {s : σ} {es fs : List ε}
    : exec step s (es ++ fs) = (exec step s es).bind fun t => exec step t fs := by
  induction es generalizing s with
  | nil => rfl
  | cons e es ih =>
    rw [List.cons_append, exec_cons, exec_cons, Option.bind_assoc]
    congr 1
    funext s'
    apply ih

theorem Always.head {s : σ} {es : List ε} (h : Always step P s es) : P s := by
  cases es with
  | nil => exact h
  | cons e es => exact h.1

theorem always_iff_exec {s : σ} {es : List ε}
    : Always step P s es ↔ ∀ fs s', fs <+: es → exec step s fs = some s' → P s' := by
  induction es generalizing s with
  | nil =>
    constructor
    . intro h fs s' hfs hexec
      rw [List.prefix_nil] at hfs
      subst hfs
      simp only [exec_nil, Option.some.injEq] at hexec
      exact hexec ▸ h
    . intro h
      exact h [] s (List.prefix_refl _) rfl
  | cons e es ih =>
    constructor
    . intro h fs s' hfs hexec
      cases fs with
      | nil =>
        simp only [exec_nil, Option.some.injEq] at hexec
        exact hexec ▸ h.1
      | cons f fs =>
        rw [List.cons_prefix_cons] at hfs
        obtain ⟨rfl, hfs⟩ := hfs
        rw [exec_cons, Option.bind_eq_some_iff] at hexec
        obtain ⟨t, hstep, hexec⟩ := hexec
        exact ih.mp (h.2 t hstep) fs s' hfs hexec
    . intro h
      refine ⟨h [] s (List.nil_prefix) rfl, ?_⟩
      intro t hstep
      rw [ih]
      intro fs s' hfs hexec
      apply h (e :: fs) s'
      . rw [List.cons_prefix_cons]
        exact ⟨rfl, hfs⟩
      . rw [exec_cons, hstep]
        exact hexec

theorem Always.exec {s s' : σ} {es : List ε} (h : Always step P s es)
    (hexec : exec step s es = some s') : P s' := by
  exact always_iff_exec.mp h es s' (List.prefix_refl _) hexec

theorem not_always_of_any [DecidablePred P] {s : σ} {es : List ε}
    (h : (exec step s es).any (fun s' => ¬ P s')) : ¬ Always step P s es := by
  intro halways
  rw [Option.any_eq_true] at h
  rcases h with ⟨s', hexec, hbad⟩
  have := halways.exec hexec
  simp_all

-- The rule for guarded runs: the invariant `I`, which implies `P`, is kept by steps that meet `G`.
theorem always_of_meets
    (himp : ∀ s, I s → P s)
    (hstep : ∀ s e s', I s → G s e → step s e = some s' → I s')
    {s : σ} {es : List ε} (hinit : I s) (hmeets : Meets step G s es)
    : Always step P s es := by
  induction es generalizing s with
  | nil => exact himp s hinit
  | cons e es ih =>
    refine ⟨himp s hinit, ?_⟩
    intro s' hs'
    have ⟨hguard, hrest⟩ := hmeets s' hs'
    exact ih (hstep s e s' hinit hguard hs') hrest

theorem inv_of_exec (hstep : ∀ s e s', I s → step s e = some s' → I s')
    {s s' : σ} {es : List ε} (hinit : I s) (hexec : exec step s es = some s') : I s' := by
  induction es generalizing s with
  | nil =>
    simp only [exec_nil, Option.some.injEq] at hexec
    exact hexec ▸ hinit
  | cons e es ih =>
    rw [exec_cons, Option.bind_eq_some_iff] at hexec
    obtain ⟨t, ht, hexec⟩ := hexec
    exact ih (hstep s e t hinit ht) hexec

theorem always_of_inv (himp : ∀ s, I s → P s)
    (hstep : ∀ s e s', I s → step s e = some s' → I s') {s : σ} (hinit : I s) (es : List ε)
    : Always step P s es := by
  rw [always_iff_exec]
  intro fs s' _ hexec
  exact himp s' (inv_of_exec hstep hinit hexec)

instance decidableMeets [∀ s e, Decidable (G s e)] (s : σ)
    : (es : List ε) → Decidable (Meets step G s es)
  | [] => .isTrue trivial
  | e :: es =>
    match h : step s e with
    | none => .isTrue (by simp [Meets, h])
    | some s' =>
      have := decidableMeets s' es
      decidable_of_iff (G s e ∧ Meets step G s' es) (by simp [Meets, h])

/--
The rule for exact guards: if steps that meet `G` preserve the invariant `I`, which implies `P`, and
any other step from a state with the invariant ends in a violation of `P`, then a run keeps `P`
exactly when all of its steps meet `G`.
-/
theorem always_iff_meets
    (himp : ∀ s, I s → P s)
    (hgood : ∀ s e s', I s → G s e → step s e = some s' → I s')
    (hbad : ∀ s e s', I s → ¬ G s e → step s e = some s' → ¬ P s')
    {s : σ} (es : List ε) (hinit : I s)
    : Always step P s es ↔ Meets step G s es := by
  constructor
  . intro h
    induction es generalizing s with
    | nil => trivial
    | cons e es ih =>
      intro s' hs'
      have hrest := h.2 s' hs'
      have hguard : G s e := by
        by_contra hG
        exact hbad s e s' hinit hG hs' hrest.head
      exact ⟨hguard, ih (hgood s e s' hinit hguard hs') hrest⟩
  . intro h
    apply always_of_meets himp hgood hinit h

-- The same where no later step undoes a violation: then the last state alone tells.
theorem last_iff_meets
    (himp : ∀ s, I s → P s)
    (hgood : ∀ s e s', I s → G s e → step s e = some s' → I s')
    (hbad : ∀ s e s', I s → ¬ G s e → step s e = some s' → ¬ P s')
    (hlasting : ∀ s e s', ¬ P s → step s e = some s' → ¬ P s')
    {s s' : σ} {es : List ε} (hinit : I s) (hexec : exec step s es = some s')
    : P s' ↔ Meets step G s es := by
  rw [← always_iff_meets himp hgood hbad es hinit]
  constructor
  . intro hlast
    rw [always_iff_exec]
    intro fs t hfs ht
    by_contra hviolated
    rcases hfs with ⟨gs, rfl⟩
    rw [exec_append, ht] at hexec
    exact inv_of_exec hlasting hviolated hexec hlast
  . intro h
    exact h.exec hexec

section

variable {ω : Type w} {out : σ → ε → σ → List ω}

def logged (step : σ → ε → Option σ) (out : σ → ε → σ → List ω) (p : σ × List ω) (e : ε)
    : Option (σ × List ω) :=
  (step p.1 e).map fun s' => (s', p.2 ++ out p.1 e s')

theorem logged_eq_some_iff {p p' : σ × List ω} {e : ε}
    : logged step out p e = some p'
        ↔
      ∃ s', step p.1 e = some s' ∧ p' = (s', p.2 ++ out p.1 e s') := by
  simp only [logged, Option.map_eq_some_iff, eq_comm (a := p')]

theorem meets_logged {p : σ × List ω} {es : List ε}
    : Meets (logged step out) (fun p e => G p.1 e) p es ↔ Meets step G p.1 es := by
  induction es generalizing p with
  | nil => rfl
  | cons e es ih =>
    constructor
    . intro h s' hs'
      have hnext := h (s', p.2 ++ out p.1 e s') (logged_eq_some_iff.mpr ⟨s', hs', rfl⟩)
      exact ⟨hnext.1, ih.mp hnext.2⟩
    . intro h p' hp'
      rcases logged_eq_some_iff.mp hp' with ⟨s', hs', rfl⟩
      have hnext := h s' hs'
      exact ⟨hnext.1, ih.mpr hnext.2⟩

-- The rule for what is shown: each step shows only what satisfies `Q` exactly when it meets `G`.
theorem always_shown_iff_meets {Q : ω → Prop}
    (hstep : ∀ s e s', I s → step s e = some s' → I s')
    (hout : ∀ s e s', I s → step s e = some s' → ((∀ o ∈ out s e s', Q o) ↔ G s e))
    {s : σ} (es : List ε) (hinit : I s)
    : Always (logged step out) (fun p => ∀ o ∈ p.2, Q o) (s, []) es ↔ Meets step G s es := by
  have hmeets : Meets (logged step out) (fun p e => G p.1 e) (s, []) es ↔ Meets step G s es :=
    meets_logged
  rw [← hmeets]
  apply always_iff_meets (I := fun p => I p.1 ∧ ∀ o ∈ p.2, Q o)
  . intro p h
    exact h.2
  . intro p e p' h hguard hp'
    rcases logged_eq_some_iff.mp hp' with ⟨s', hs', rfl⟩
    refine ⟨hstep _ _ _ h.1 hs', ?_⟩
    rw [List.forall_mem_append]
    exact ⟨h.2, (hout _ _ _ h.1 hs').mpr hguard⟩
  . intro p e p' h hguard hp' hall
    rcases logged_eq_some_iff.mp hp' with ⟨s', hs', rfl⟩
    rw [List.forall_mem_append] at hall
    exact hguard ((hout _ _ _ h.1 hs').mp hall.2)
  . exact ⟨hinit, by simp⟩

end

end Transition
