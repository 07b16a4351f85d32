import Mathlib.Data.List.Infix
import Tabular.Text.Search

/-!
# Occurrences in a text

A search finds the first occurrence of a shorter text. A text is split at all occurrences of
a character. Taking out all occurrences leaves a text as it is exactly if there are none.
-/

set_option autoImplicit false

namespace Tabular.Text

theorem after?_eq_some {sub s rest : List Char} : after? sub s = some rest ↔ s = sub ++ rest := by
  induction sub generalizing s with
  | nil => exact Option.some_inj
  | cons p ps ih =>
    cases s with
    | nil => simp [after?]
    | cons c s =>
      rw [after?, List.cons_append, List.cons.injEq]
      split
      · next h => simp [h, ih]
      · next h => simp [Ne.symm h]

theorem after?_eq_none {sub s : List Char} : after? sub s = none ↔ ¬ sub <+: s := by
  rw [Option.eq_none_iff_forall_ne_some]
  constructor
  · rintro h ⟨rest, rfl⟩
    exact h rest (after?_eq_some.2 rfl)
  · exact fun h rest hrest => h ⟨rest, (after?_eq_some.1 hrest).symm⟩

/-- A text is cut at the occurrence before whose end there is no other. -/
theorem cut?_eq_some {sub : List Char} (hsub : sub ≠ []) {s before rest : List Char} :
    cut? sub s = some (before, rest) ↔
      s = before ++ sub ++ rest ∧ ¬ sub <:+: (before ++ sub).dropLast := by
  induction s generalizing before with
  | nil => simp [cut?, hsub]
  | cons c s ih =>
    rw [cut?]
    cases hafter : after? sub (c :: s) with
    | some found =>
      have hfound := after?_eq_some.1 hafter
      simp only [Option.some_inj, Prod.mk.injEq]
      constructor
      · rintro ⟨rfl, rfl⟩
        refine ⟨hfound, fun h => ?_⟩
        have hlen := h.length_le
        have hpos := List.length_pos_of_ne_nil hsub
        simp only [List.nil_append, List.length_dropLast] at hlen
        omega
      · rintro ⟨hs, hfirst⟩
        cases before with
        | nil => exact ⟨rfl, List.append_cancel_left (hfound.symm.trans hs)⟩
        | cons d before =>
          -- the occurrence at the start ends before that behind `before` does
          refine absurd (List.IsPrefix.isInfix ?_) hfirst
          have hother : (d :: before ++ sub).dropLast <+: c :: s := by
            rw [hs]
            exact (List.dropLast_prefix _).trans (List.prefix_append _ _)
          exact List.prefix_of_prefix_length_le ⟨found, hfound.symm⟩ hother (by simp)
    | none =>
      have hnot : ¬ sub <+: c :: s := after?_eq_none.1 hafter
      simp only [Option.map_eq_some_iff, Prod.exists, Prod.mk.injEq]
      constructor
      · rintro ⟨front, back, hcut, rfl, rfl⟩
        obtain ⟨rfl, hfirst⟩ := ih.1 hcut
        refine ⟨rfl, fun h => ?_⟩
        rw [List.cons_append, List.dropLast_cons_of_ne_nil (by simp [hsub])] at h
        rcases List.infix_cons_iff.1 h with h | h
        · have hbegin : c :: (front ++ sub).dropLast <+: c :: (front ++ sub ++ back) :=
            List.cons_prefix_cons.2 ⟨rfl, (List.dropLast_prefix _).trans (List.prefix_append _ _)⟩
          exact hnot (h.trans hbegin)
        · exact hfirst h
      · rintro ⟨hs, hfirst⟩
        cases before with
        | nil => exact absurd ⟨rest, hs.symm⟩ hnot
        | cons d before =>
          rw [List.cons_append, List.cons_append, List.cons.injEq] at hs
          obtain ⟨rfl, hs⟩ := hs
          rw [List.cons_append, List.dropLast_cons_of_ne_nil (by simp [hsub])] at hfirst
          exact ⟨before, rest, ih.2 ⟨hs, fun h => hfirst (h.trans (List.suffix_cons _ _).isInfix)⟩,
            rfl, rfl⟩

theorem cut?_eq_none {sub : List Char} (hsub : sub ≠ []) {s : List Char} :
    cut? sub s = none ↔ ¬ sub <:+: s := by
  induction s with
  | nil => simp [cut?, hsub]
  | cons c s ih =>
    rw [cut?, List.infix_cons_iff, not_or]
    cases hafter : after? sub (c :: s) with
    | some found => simp [show sub <+: c :: s from ⟨found, (after?_eq_some.1 hafter).symm⟩]
    | none => simp [after?_eq_none.1 hafter, ih]

theorem contains_iff {sub : List Char} (hsub : sub ≠ []) {s : List Char} :
    contains sub s = true ↔ sub <:+: s := by
  rw [contains, Option.isSome_iff_ne_none, ne_eq, cut?_eq_none hsub, not_not]

section

variable {sep : Char} {s t part : List Char} {parts : List (List Char)}

theorem splitAll_of_not_mem (h : sep ∉ s) : splitAll sep s = [s] := by
  induction s with
  | nil => rfl
  | cons c s ih =>
    obtain ⟨hc, hs⟩ := List.ne_and_not_mem_of_not_mem_cons h
    rw [splitAll, if_neg (Ne.symm hc), ih hs]

theorem splitAll_append (h : sep ∉ s) : splitAll sep (s ++ sep :: t) = s :: splitAll sep t := by
  induction s with
  | nil => exact if_pos rfl
  | cons c s ih =>
    obtain ⟨hc, hs⟩ := List.ne_and_not_mem_of_not_mem_cons h
    rw [List.cons_append, splitAll, if_neg (Ne.symm hc), ih hs]

/-- The first part ends at the first occurrence, or there is none. -/
theorem splitAll_eq_cons :
    splitAll sep s = part :: parts ↔ sep ∉ part ∧
      (s = part ∧ parts = [] ∨ ∃ t, s = part ++ sep :: t ∧ splitAll sep t = parts) := by
  constructor
  · intro h
    by_cases hmem : sep ∈ s
    · obtain ⟨front, t, rfl, hfront⟩ := List.eq_append_cons_of_mem hmem
      rw [splitAll_append hfront, List.cons.injEq] at h
      obtain ⟨rfl, hparts⟩ := h
      exact ⟨hfront, .inr ⟨t, rfl, hparts⟩⟩
    · rw [splitAll_of_not_mem hmem, List.cons.injEq] at h
      obtain ⟨rfl, hparts⟩ := h
      exact ⟨hmem, .inl ⟨rfl, hparts.symm⟩⟩
  · rintro ⟨hpart, ⟨rfl, rfl⟩ | ⟨t, rfl, rfl⟩⟩
    · exact splitAll_of_not_mem hpart
    · exact splitAll_append hpart

theorem splitAll_ne_nil : splitAll sep s ≠ [] := by
  by_cases hmem : sep ∈ s
  · obtain ⟨front, t, rfl, hfront⟩ := List.eq_append_cons_of_mem hmem
    rw [splitAll_append hfront]
    exact List.cons_ne_nil _ _
  · rw [splitAll_of_not_mem hmem]
    exact List.cons_ne_nil _ _

theorem splitAll_eq_singleton : splitAll sep s = [part] ↔ s = part ∧ sep ∉ part := by
  rw [splitAll_eq_cons]
  constructor
  · rintro ⟨hpart, ⟨rfl, -⟩ | ⟨t, -, hnil⟩⟩
    · exact ⟨rfl, hpart⟩
    · exact absurd hnil splitAll_ne_nil
  · rintro ⟨rfl, hpart⟩
    exact ⟨hpart, .inl ⟨rfl, rfl⟩⟩

theorem splitAll_eq_pair {front back : List Char} :
    splitAll sep s = [front, back] ↔ s = front ++ sep :: back ∧ sep ∉ front ∧ sep ∉ back := by
  rw [splitAll_eq_cons]
  constructor
  · rintro ⟨hfront, ⟨-, hnil⟩ | ⟨t, rfl, ht⟩⟩
    · cases hnil
    · obtain ⟨rfl, hback⟩ := splitAll_eq_singleton.1 ht
      exact ⟨rfl, hfront, hback⟩
  · rintro ⟨rfl, hfront, hback⟩
    exact ⟨hfront, .inr ⟨back, rfl, splitAll_eq_singleton.2 ⟨rfl, hback⟩⟩⟩

/-- A part stands in the text. -/
theorem infix_of_mem_splitAll (h : part ∈ splitAll sep s) : part <:+: s := by
  generalize hparts : splitAll sep s = parts at h
  induction parts generalizing s with
  | nil => cases h
  | cons first parts ih =>
    rcases List.mem_cons.1 h with rfl | h
    · rcases (splitAll_eq_cons.1 hparts).2 with ⟨rfl, -⟩ | ⟨t, rfl, -⟩
      · exact List.infix_refl _
      · exact (List.prefix_append _ _).isInfix
    · rcases (splitAll_eq_cons.1 hparts).2 with ⟨-, rfl⟩ | ⟨t, rfl, ht⟩
      · cases h
      · exact (ih ht h).trans ((List.suffix_cons _ _).trans (List.suffix_append _ _)).isInfix

end

section

variable {sub s : List Char}

theorem removeFrom_drop (sub : List Char) (skip : Nat) (s : List Char) :
    removeFrom sub skip s = removeAll sub (s.drop skip) := by
  induction skip generalizing s with
  | zero => rfl
  | succ skip ih =>
    cases s with
    | nil => rfl
    | cons c s => exact ih s

theorem removeAll_lead (hsub : sub ≠ []) (s : List Char) :
    removeAll sub (sub ++ s) = removeAll sub s := by
  obtain ⟨c, cs, rfl⟩ := List.exists_cons_of_ne_nil hsub
  have hlead : (c :: cs).isPrefixOf (c :: (cs ++ s)) = true :=
    List.isPrefixOf_iff_prefix.2 (List.prefix_append (c :: cs) s)
  rw [List.cons_append, removeAll, removeFrom, if_pos hlead, removeFrom_drop, List.length_cons,
    Nat.add_sub_cancel, List.drop_left]

theorem removeAll_cons {c : Char} (h : ¬sub <+: c :: s) :
    removeAll sub (c :: s) = c :: removeAll sub s := by
  rw [removeAll, removeFrom, if_neg (mt List.isPrefixOf_iff_prefix.1 h)]
  rfl

theorem length_removeFrom_le (sub : List Char) (skip : Nat) (s : List Char) :
    (removeFrom sub skip s).length ≤ s.length := by
  fun_induction removeFrom sub skip s with
  | case1 => exact Nat.le_refl _
  | case2 skip c s ih => exact Nat.le_succ_of_le ih
  | case3 c s _ ih => exact Nat.le_succ_of_le ih
  | case4 c s _ ih => exact Nat.succ_le_succ ih

theorem removeAll_eq_self_iff (hsub : sub ≠ []) : removeAll sub s = s ↔ ¬sub <:+: s := by
  induction s with
  | nil => simp [removeAll, removeFrom, hsub]
  | cons c s ih =>
    rw [List.infix_cons_iff, not_or]
    by_cases hlead : sub <+: c :: s
    · obtain ⟨rest, hrest⟩ := hlead
      have hshort : (removeAll sub (c :: s)).length < (c :: s).length := by
        rw [← hrest, removeAll_lead hsub, List.length_append]
        have hrem := length_removeFrom_le sub 0 rest
        have hpos := List.length_pos_of_ne_nil hsub
        rw [removeAll]
        omega
      refine iff_of_false (fun h => ?_) fun h => h.1 ⟨rest, hrest⟩
      rw [h] at hshort
      exact Nat.lt_irrefl _ hshort
    · rw [removeAll_cons hlead, List.cons.injEq, ih]
      simp [hlead]

/-- No occurrence begins in a text without the first character of what is taken out. -/
theorem removeAll_append {p : List Char} (h : ∀ c ∈ p, c ∉ sub) (hsub : sub ≠ [])
    (s : List Char) : removeAll sub (p ++ s) = p ++ removeAll sub s := by
  induction p with
  | nil => rfl
  | cons c p ih =>
    obtain ⟨hc, hp⟩ := List.forall_mem_cons.1 h
    have hlead : ¬sub <+: c :: (p ++ s) := by
      obtain ⟨d, ds, rfl⟩ := List.exists_cons_of_ne_nil hsub
      intro hprefix
      obtain ⟨rfl, -⟩ := List.cons_prefix_cons.1 hprefix
      exact hc List.mem_cons_self
    rw [List.cons_append, removeAll_cons hlead, ih hp]
    rfl

end

end Tabular.Text
