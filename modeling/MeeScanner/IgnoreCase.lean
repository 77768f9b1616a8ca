import Mathlib.Data.List.Infix

/-!
This module contains strings as their UTF-16 code units and the two comparisons that ignore case.
Two units are the same when the lower case of their upper case is; what upper and lower case are
outside of ASCII is left open.
-/

namespace IgnoreCase

abbrev Units := List UInt16

def ofAscii (s : String) : Units := s.toList.map fun c => c.toNat.toUInt16

def lowerAscii (c : UInt16) : UInt16 := if 65 ≤ c ∧ c ≤ 90 then c + 32 else c

structure CaseMapping where
  uppercaseChar : UInt16 → UInt16
  lowercaseChar : UInt16 → UInt16
  uppercaseChar_ascii (c : UInt16) (hc : c < 128)
    : uppercaseChar c = if 97 ≤ c ∧ c ≤ 122 then c - 32 else c
  lowercaseChar_ascii (c : UInt16) (hc : c < 128)
    : lowercaseChar c = if 65 ≤ c ∧ c ≤ 90 then c + 32 else c

instance : Inhabited CaseMapping where
  default := {
    uppercaseChar := fun c => if 97 ≤ c ∧ c ≤ 122 then c - 32 else c
    lowercaseChar := fun c => if 65 ≤ c ∧ c ≤ 90 then c + 32 else c
    uppercaseChar_ascii := fun _ _ => rfl
    lowercaseChar_ascii := fun _ _ => rfl
  }

namespace CaseMapping

variable (m : CaseMapping)

def fold (c : UInt16) : UInt16 := m.lowercaseChar (m.uppercaseChar c)

def startsWith (s start : Units) : Bool :=
  match s, start with
  | _, [] => true
  | [], _ :: _ => false
  | c :: s, d :: start => m.fold c == m.fold d && startsWith s start

def equals (s t : Units) : Bool :=
  match s, t with
  | [], [] => true
  | c :: s, d :: t => m.fold c == m.fold d && equals s t
  | _, _ => false

theorem fold_ascii {c : UInt16} (hc : c < 128) : m.fold c = lowerAscii c := by
  unfold fold lowerAscii
  rw [m.uppercaseChar_ascii c hc]
  split
  next h =>
    have hsmall : c - 32 < 128 := by grind
    rw [m.lowercaseChar_ascii _ hsmall]
    grind
  next => exact m.lowercaseChar_ascii c hc

theorem startsWith_iff (s start : Units)
    : m.startsWith s start = true ↔ start.map m.fold <+: s.map m.fold := by
  fun_induction startsWith m s start with
  | case1 s => simp
  | case2 d start => simp
  | case3 c s d start ih =>
    simp only [List.map_cons, List.cons_prefix_cons, Bool.and_eq_true, beq_iff_eq, ih]
    rw [eq_comm]

theorem equals_iff (s t : Units) : m.equals s t = true ↔ s.map m.fold = t.map m.fold := by
  fun_induction equals m s t with
  | case1 => simp
  | case2 c s d t ih => simp [ih]
  | case3 s t hnil hcons =>
    cases s with
    | nil =>
      cases t with
      | nil => exact (hnil rfl rfl).elim
      | cons d t => simp
    | cons c s =>
      cases t with
      | nil => simp
      | cons d t => exact (hcons c s d t rfl rfl).elim

theorem equals_symm {s t : Units} (h : m.equals s t = true) : m.equals t s = true := by
  rw [equals_iff] at h ⊢
  exact h.symm

theorem startsWith_congr {s t : Units} (h : m.equals s t = true) (start : Units)
    : m.startsWith s start = m.startsWith t start := by
  rw [equals_iff] at h
  rw [Bool.eq_iff_iff, startsWith_iff, startsWith_iff, h]

/--
The starts of a string share their first unit, up to case.
-/
theorem head_eq_of_startsWith {s : Units} {c d : UInt16} {p q : Units}
    (hp : m.startsWith s (c :: p) = true) (hq : m.startsWith s (d :: q) = true)
    : m.fold c = m.fold d := by
  cases s with
  | nil => contradiction
  | cons e s =>
    simp only [startsWith, Bool.and_eq_true, beq_iff_eq] at hp hq
    exact hp.left.symm.trans hq.left

end CaseMapping
end IgnoreCase
