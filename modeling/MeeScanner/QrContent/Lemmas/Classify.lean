import MeeScanner.QrContent.Impl

/-!
This module contains the classification of QR codes: no string begins with schemes of two kinds,
because the first letters of any two kinds differ, and folding keeps them apart.
-/

open FirstMatch IgnoreCase

namespace MeeScanner
namespace QrContent.Kind

variable (m : CaseMapping)

/--
The string begins, ignoring case, with a scheme of the kind.
-/
def Begins (rawValue : Units) (kind : Kind) : Prop :=
  ∃ start ∈ kind.schemes, m.startsWith rawValue start = true

def initial : Kind → UInt16
  | .upi => 117
  | .url => 104
  | .wifi => 119
  | .contact => 98
  | .email => 109
  | .phone => 116
  | .sms => 115
  | .plainText => 0

theorem initial_injective {k l : Kind} (h : k.initial = l.initial) : k = l := by
  cases k <;> cases l <;> first | rfl | (revert h; decide)

theorem head_of_mem_schemes (k : Kind)
    : ∀ start ∈ k.schemes,
        (start.head?.any fun c => c < 128 && lowerAscii c == k.initial) = true := by
  cases k <;> decide

theorem fold_head {k : Kind} {start : Units} (h : start ∈ k.schemes)
    : ∃ c tail, start = c :: tail ∧ m.fold c = k.initial := by
  have hhead := head_of_mem_schemes k start h
  cases start with
  | nil => contradiction
  | cons c tail =>
    simp only [List.head?_cons, Option.any_some, Bool.and_eq_true, decide_eq_true_eq,
      beq_iff_eq] at hhead
    exact ⟨c, tail, rfl, (m.fold_ascii hhead.left).trans hhead.right⟩

theorem Begins.unique {m : CaseMapping} {rawValue : Units} {k l : Kind}
    (hk : Begins m rawValue k) (hl : Begins m rawValue l)
    : k = l := by
  rcases hk with ⟨p, hp, hkstart⟩
  rcases hl with ⟨q, hq, hlstart⟩
  rcases fold_head m hp with ⟨c, p, rfl, hc⟩
  rcases fold_head m hq with ⟨d, q, rfl, hd⟩
  apply initial_injective
  rw [← hc, ← hd]
  exact m.head_eq_of_startsWith hkstart hlstart

theorem Begins.congr {m : CaseMapping} {s t : Units} {k : Kind} (h : m.equals s t = true)
    (hs : Begins m s k)
    : Begins m t k := by
  rcases hs with ⟨start, hmem, hstart⟩
  exact ⟨start, hmem, (m.startsWith_congr h start).symm.trans hstart⟩

theorem not_begins_plainText (rawValue : Units) : ¬Begins m rawValue .plainText := by
  simp [Begins, schemes]

theorem branch_guard (k : Kind) (rawValue : Units) (frame : Option Bitmap)
    : (k.branch m).guard (rawValue, frame) = true ↔ Begins m rawValue k := by
  simp [branch, Begins]

@[simp]
theorem content_kind (k : Kind) (rawValue : Units) (frame : Option Bitmap)
    : (k.content rawValue frame).kind = k := by
  cases k <;> rfl

@[simp]
theorem content_rawValue (k : Kind) (rawValue : Units) (frame : Option Bitmap)
    : (k.content rawValue frame).rawValue = rawValue := by
  cases k <;> rfl

@[simp]
theorem content_frame (k : Kind) (rawValue : Units) (frame : Option Bitmap)
    : (k.content rawValue frame).frame = frame := by
  cases k <;> rfl

end QrContent.Kind

namespace QrContentAnalyzer

open QrContent (Kind)

variable (m : CaseMapping)

theorem analyze_eq_choose (rawValue : Units) (frame : Option Bitmap)
    : analyze m rawValue frame = choose (branches m) otherwise (rawValue, frame) := by
  simp [analyze, branches, choose, otherwise, Kind.branch, Kind.schemes, Kind.content]

theorem mem_branches {b : Branch (Units × Option Bitmap) QrContent}
    : b ∈ branches m ↔ ∃ k, k ≠ Kind.plainText ∧ k.branch m = b := by
  unfold branches
  rw [List.mem_map]
  refine exists_congr fun k => and_congr_left fun _ => ?_
  cases k <;> decide

theorem exclusive_branches : Exclusive (branches m) := by
  unfold branches Exclusive
  rw [List.pairwise_map]
  have hkinds : List.Pairwise (· ≠ ·)
      [Kind.upi, .url, .wifi, .contact, .email, .phone, .sms] := by decide
  refine hkinds.imp ?_
  intro k l hne x hboth
  rw [Kind.branch_guard, Kind.branch_guard] at hboth
  exact hne (hboth.left.unique hboth.right)

theorem analyze_of_begins {rawValue : Units} {k : Kind} (frame : Option Bitmap)
    (h : Kind.Begins m rawValue k)
    : analyze m rawValue frame = k.content rawValue frame := by
  have hplain : k ≠ .plainText := by
    rintro rfl
    exact Kind.not_begins_plainText m rawValue h
  have hmem := (mem_branches m).mpr ⟨k, hplain, rfl⟩
  have hguard := (Kind.branch_guard m k rawValue frame).mpr h
  rw [analyze_eq_choose]
  exact choose_of_mem otherwise (exclusive_branches m) hmem hguard

theorem analyze_of_not_begins {rawValue : Units} (frame : Option Bitmap)
    (h : ∀ k, ¬Kind.Begins m rawValue k)
    : analyze m rawValue frame = .plainText rawValue frame := by
  rw [analyze_eq_choose]
  apply choose_of_forall_not otherwise
  intro b hb
  rcases (mem_branches m).mp hb with ⟨k, -, rfl⟩
  have := (Kind.branch_guard m k rawValue frame).not.mpr (h k)
  simpa using this

/--
The raw value is one of a kind, or plain text.
-/
theorem analyze_eq_content (rawValue : Units) (frame : Option Bitmap)
    : ∃ k, analyze m rawValue frame = k.content rawValue frame
        ∧ ∀ l, Kind.Begins m rawValue l ↔ l = k ∧ k ≠ .plainText := by
  by_cases h : ∃ k, Kind.Begins m rawValue k
  . rcases h with ⟨k, hk⟩
    refine ⟨k, analyze_of_begins m frame hk, fun l => ⟨fun hl => ⟨hl.unique hk, ?_⟩, ?_⟩⟩
    . rintro rfl
      exact Kind.not_begins_plainText m rawValue hk
    . rintro ⟨rfl, -⟩
      exact hk
  . have hnone := not_exists.mp h
    refine ⟨.plainText, analyze_of_not_begins m frame hnone, fun l => ⟨fun hl => ?_, ?_⟩⟩
    . exact absurd hl (hnone l)
    . rintro ⟨-, hne⟩
      exact absurd rfl hne

theorem kind_eq_iff (rawValue : Units) (frame : Option Bitmap) {k : Kind} (hk : k ≠ .plainText)
    : (analyze m rawValue frame).kind = k ↔ Kind.Begins m rawValue k := by
  have ⟨kind, heq, hbegins⟩ := analyze_eq_content m rawValue frame
  rw [heq, Kind.content_kind, hbegins]
  constructor
  . rintro rfl
    exact ⟨rfl, hk⟩
  . rintro ⟨rfl, -⟩
    rfl

theorem kind_eq_plainText_iff (rawValue : Units) (frame : Option Bitmap)
    : (analyze m rawValue frame).kind = .plainText ↔ ∀ k, ¬Kind.Begins m rawValue k := by
  have ⟨kind, heq, hbegins⟩ := analyze_eq_content m rawValue frame
  simp only [heq, Kind.content_kind, hbegins]
  constructor
  . rintro rfl k ⟨-, hne⟩
    exact hne rfl
  . intro h
    by_contra hne
    exact h kind ⟨rfl, hne⟩

theorem kind_congr {s t : Units} (frame frame' : Option Bitmap) (h : m.equals s t = true)
    : (analyze m s frame).kind = (analyze m t frame').kind := by
  by_cases hplain : (analyze m t frame').kind = .plainText
  . rw [hplain]
    rw [kind_eq_plainText_iff] at hplain ⊢
    intro k hk
    exact hplain k (hk.congr h)
  . rw [kind_eq_iff m s frame hplain]
    have hbegins := (kind_eq_iff m t frame' hplain).mp rfl
    exact hbegins.congr (m.equals_symm h)

/--
The classification is lossless and unambiguous, and depends neither on the order of the branches nor
on the case of the raw value.
-/
structure Classifies : Prop where
  lossless (rawValue : Units) (frame : Option Bitmap)
    : (analyze m rawValue frame).rawValue = rawValue ∧ (analyze m rawValue frame).frame = frame
  unambiguous (rawValue : Units) (k l : Kind)
    : Kind.Begins m rawValue k → Kind.Begins m rawValue l → k = l
  anyOrder (reordered : List (Branch (Units × Option Bitmap) QrContent))
    : (branches m).Perm reordered → ∀ rawValue frame,
        choose reordered otherwise (rawValue, frame) = analyze m rawValue frame
  kind_iff (rawValue : Units) (frame : Option Bitmap) (k : Kind)
    : k ≠ .plainText → ((analyze m rawValue frame).kind = k ↔ Kind.Begins m rawValue k)
  plainText_iff (rawValue : Units) (frame : Option Bitmap)
    : (analyze m rawValue frame).kind = .plainText ↔ ∀ k, ¬Kind.Begins m rawValue k
  ignoresCase (s t : Units) (frame frame' : Option Bitmap)
    : m.equals s t = true → (analyze m s frame).kind = (analyze m t frame').kind

theorem classifies : Classifies m where
  lossless := by
    intro rawValue frame
    have ⟨kind, heq, _⟩ := analyze_eq_content m rawValue frame
    rw [heq]
    exact ⟨Kind.content_rawValue kind rawValue frame, Kind.content_frame kind rawValue frame⟩
  unambiguous := by
    intro rawValue k l hk hl
    exact hk.unique hl
  anyOrder := by
    intro reordered hperm rawValue frame
    rw [analyze_eq_choose, choose_perm otherwise (exclusive_branches m) hperm]
  kind_iff := by
    intro rawValue frame k hk
    exact kind_eq_iff m rawValue frame hk
  plainText_iff := kind_eq_plainText_iff m
  ignoresCase := by
    intro s t frame frame' h
    exact kind_congr m frame frame' h

example : analyze default (ofAscii "SmsTo:1") = .sms (ofAscii "SmsTo:1") none := by decide

end QrContentAnalyzer
end MeeScanner
