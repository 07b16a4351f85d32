import Mathlib
import Tabular.Text.Blank

/-!
# White space around a text

Trimming takes the white space off both ends of a text and nothing else: what is left begins
and ends with something else, or is empty.
-/

set_option autoImplicit false

namespace Tabular.Text

def Blanks (s : List Char) : Prop := ∀ c ∈ s, isBlank c = true

structure Tidy (s : List Char) : Prop where
  head : ∀ c ∈ s.head?, isBlank c = false
  last : ∀ c ∈ s.getLast?, isBlank c = false

inductive Strips : List Char → List Char → Prop
  | mk {g s g' : List Char} (before : Blanks g) (tidy : Tidy s) (after : Blanks g') :
      Strips (g ++ (s ++ g')) s

variable {g s t g' : List Char}

theorem isBlank_of_isAlpha {c : Char} (h : c.isAlpha = true) : isBlank c = false := by
  have hletter : 65 ≤ c.toNat ∧ c.toNat ≤ 122 := by
    simp only [Char.isAlpha, Char.isUpper, Char.isLower, Bool.or_eq_true, Bool.and_eq_true,
      decide_eq_true_eq, ge_iff_le, UInt32.le_iff_toNat_le] at h
    rcases h with ⟨h, k⟩ | ⟨h, k⟩
    · exact ⟨h, Nat.le_trans k (by decide)⟩
    · exact ⟨Nat.le_trans (by decide) h, k⟩
  simp only [isBlank, Bool.or_eq_false_iff, Bool.and_eq_false_iff, decide_eq_false_iff_not,
    beq_eq_false_iff_ne]
  omega

theorem Blanks.not_mem {c : Char} (hg : Blanks g) (hc : isBlank c = false) :
    c ∉ g := by
  intro hmem
  rw [hg c hmem] at hc
  cases hc

theorem Tidy.of_all (h : ∀ c ∈ s, isBlank c = false) : Tidy s where
  head c hc := h c (List.mem_of_mem_head? hc)
  last c hc := h c (List.mem_of_mem_getLast? hc)

theorem dropWhile_tidy (h : ∀ c ∈ s.head?, isBlank c = false) : s.dropWhile isBlank = s := by
  cases s with
  | nil => rfl
  | cons c s => exact List.dropWhile_cons_of_neg (by simpa using h c rfl)

theorem trimEnd_append (hs : ∀ c ∈ s.getLast?, isBlank c = false) (hg : Blanks g) :
    trimEnd (s ++ g) = s := by
  have hback : ∀ c ∈ s.reverse.head?, isBlank c = false := by
    rwa [List.head?_reverse]
  have hblank : ∀ c ∈ g.reverse, isBlank c = true := fun c hc => hg c (List.mem_reverse.1 hc)
  rw [trimEnd, List.reverse_append, List.dropWhile_append_of_pos hblank, dropWhile_tidy hback,
    List.reverse_reverse]

theorem trimEnd_blanks (hg : Blanks g) : trimEnd g = [] := by
  have hnone : ∀ c ∈ ([] : List Char).getLast?, isBlank c = false := nofun
  exact trimEnd_append hnone hg

theorem Strips.trim_eq (h : Strips s t) : trim s = t := by
  cases h with
  | @mk g _ g' before tidy after =>
    rw [trim, trimStart, List.dropWhile_append_of_pos before]
    cases t with
    | nil =>
      have hrest : Blanks (g'.dropWhile isBlank) := by
        intro c hc
        exact after c ((List.dropWhile_suffix isBlank).subset hc)
      exact trimEnd_blanks hrest
    | cons c t =>
      have hhead : ∀ d ∈ (c :: t ++ g').head?, isBlank d = false := tidy.head
      rw [dropWhile_tidy hhead]
      exact trimEnd_append tidy.last after

theorem head_trimStart {c : Char} (h : (trimStart s).head? = some c) : isBlank c = false := by
  have hnot := List.head?_dropWhile_not isBlank s
  rw [show s.dropWhile isBlank = trimStart s from rfl, h] at hnot
  simpa using hnot

/-- What is dropped at the end of a text, and what is left of it. -/
theorem exists_trimEnd (s : List Char) :
    ∃ g, Blanks g ∧ s = trimEnd s ++ g ∧ ∀ c ∈ (trimEnd s).getLast?, isBlank c = false := by
  refine ⟨(s.reverse.takeWhile isBlank).reverse, ?_, ?_, ?_⟩
  · intro c hc
    exact List.mem_takeWhile_imp (List.mem_reverse.1 hc)
  · rw [trimEnd, ← List.reverse_append, List.takeWhile_append_dropWhile, List.reverse_reverse]
  · intro c hc
    rw [trimEnd, List.getLast?_reverse] at hc
    exact head_trimStart hc

theorem strips_trim (s : List Char) : Strips s (trim s) := by
  obtain ⟨g', hg', hback, hlast⟩ := exists_trimEnd (trimStart s)
  have hsplit : s = s.takeWhile isBlank ++ (trim s ++ g') := by
    rw [trim, ← hback, trimStart, List.takeWhile_append_dropWhile]
  have hbefore : Blanks (s.takeWhile isBlank) := fun c hc => List.mem_takeWhile_imp hc
  have htidy : Tidy (trim s) := by
    constructor
    · intro c hc
      apply head_trimStart (s := s)
      rw [hback, List.head?_append]
      exact Option.or_eq_some_iff.2 (.inl hc)
    · exact hlast
  have hstrips := Strips.mk hbefore htidy hg'
  rwa [← hsplit] at hstrips

/-- Trimming is described by what it leaves. -/
theorem trim_iff : trim s = t ↔ Strips s t := by
  constructor
  · rintro rfl
    exact strips_trim s
  · exact Strips.trim_eq

theorem trim_nil_iff : trim s = [] ↔ Blanks s := by
  constructor
  · intro h
    cases trim_iff.1 h with
    | mk before _ after =>
      intro c hc
      rcases List.mem_append.1 hc with hc | hc
      · exact before c hc
      · exact after c hc
  · intro h
    have hnone : Tidy [] := ⟨nofun, nofun⟩
    have hstrips : Strips (s ++ ([] ++ [])) [] := .mk h hnone nofun
    rw [List.append_nil, List.append_nil] at hstrips
    exact hstrips.trim_eq

theorem blank_iff {s : String} : blank s = true ↔ trim s.toList = [] := by
  rw [trim_nil_iff, blank, List.all_eq_true, Blanks]

end Tabular.Text
