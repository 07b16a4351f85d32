import Tabular.Filter.Basic
import Tabular.Proofs.Occurrences

/-!
# Operators in values

An operator is looked for anywhere in a value, the ones of two characters before the ones of
one, and every occurrence of it is taken out. So which value a condition can compare with
depends on the operator in front of it.
-/

set_option autoImplicit false

namespace Tabular

/-- The first element with a property is one before which no other has it. -/
theorem find?_eq_some_iff_takeWhile {α : Type} [DecidableEq α] {p : α → Bool} {l : List α}
    {a : α} : l.find? p = some a ↔ a ∈ l ∧ p a = true ∧ ∀ b ∈ l.takeWhile (· ≠ a), p b = false := by
  induction l with
  | nil => simp
  | cons b l ih =>
    by_cases hb : b = a
    · subst hb
      cases hp : p b with
      | true => simp [hp]
      | false => simp [hp, ih]
    · cases hp : p b with
      | true => simp [hp, hb]
      | false => simp [hp, hb, ih, Ne.symm hb]

namespace Operator

def preferred (op : Operator) : List Operator := embedded.takeWhile (· ≠ op)

theorem sql_ne_nil (op : Operator) : op.sql.toList ≠ [] := by cases op <;> decide

theorem occursIn_iff {op : Operator} {raw : List Char} :
    op.occursIn raw = true ↔ op.sql.toList <:+: raw := Text.contains_iff op.sql_ne_nil

theorem occursIn_eq_false_iff {op : Operator} {raw : List Char} :
    op.occursIn raw = false ↔ ¬op.sql.toList <:+: raw := by
  rw [← occursIn_iff, Bool.not_eq_true]

theorem mem_embedded {op : Operator} : op ∈ embedded ↔ op ≠ .eq := by cases op <;> decide

theorem extract_plain_iff {raw : String} :
    extract raw = (.eq, raw) ↔ ∀ op ∈ embedded, ¬op.sql.toList <:+: raw.toList := by
  rw [extract]
  cases hfind : embedded.find? fun op => op.occursIn raw.toList with
  | none =>
    have hnone := List.find?_eq_none.1 hfind
    refine iff_of_true rfl fun op hop => ?_
    rw [← occursIn_iff]
    exact hnone op hop
  | some op =>
    obtain ⟨hop, hoccurs, -⟩ := find?_eq_some_iff_takeWhile.1 hfind
    refine iff_of_false (fun h => mem_embedded.1 hop (congrArg Prod.fst h)) fun h => ?_
    exact h op hop (occursIn_iff.1 hoccurs)

variable {op : Operator} (hop : op ≠ .eq)

include hop

/-- An operator is found where it occurs and none that is preferred to it does. -/
theorem extract_eq_iff {raw operand : String} :
    extract raw = (op, operand) ↔ op.sql.toList <:+: raw.toList ∧
      (∀ other ∈ op.preferred, ¬other.sql.toList <:+: raw.toList) ∧
      Text.removeAll op.sql.toList raw.toList = operand.toList := by
  have hfound : (embedded.find? fun op => op.occursIn raw.toList) = some op ↔
      op.sql.toList <:+: raw.toList ∧
        ∀ other ∈ op.preferred, ¬other.sql.toList <:+: raw.toList := by
    simp only [find?_eq_some_iff_takeWhile, mem_embedded, occursIn_iff, occursIn_eq_false_iff,
      preferred, hop, ne_eq, not_false_eq_true, true_and]
  rw [← and_assoc, ← hfound, extract]
  cases embedded.find? fun op => op.occursIn raw.toList with
  | none => simp [Ne.symm hop]
  | some found =>
    rw [Prod.mk.injEq, Option.some_inj]
    refine and_congr_right ?_
    rintro rfl
    rw [← String.toList_inj, String.toList_ofList]

/-- An operator in front of an operand. -/
theorem extract_lead_iff {v : String} :
    extract (op.sql ++ v) = (op, v) ↔
      (∀ other ∈ op.preferred, ¬other.sql.toList <:+: op.sql.toList ++ v.toList) ∧
      ¬op.sql.toList <:+: v.toList := by
  have hlead : op.sql.toList <:+: op.sql.toList ++ v.toList := (List.prefix_append _ _).isInfix
  rw [extract_eq_iff hop, String.toList_append, Text.removeAll_lead op.sql_ne_nil,
    Text.removeAll_eq_self_iff op.sql_ne_nil, and_iff_right hlead]

omit hop

def marks : List Char := ['<', '>', '!', '=']

theorem mem_marks (op : Operator) : ∀ c ∈ op.sql.toList, c ∈ marks := by
  cases op <;> simp [sql, marks]

theorem not_preferred_in_own (op : Operator) :
    ∀ other ∈ op.preferred, ¬other.sql.toList <:+: op.sql.toList := by cases op <;> decide

/-- What stands around an operator without marks of its own takes no part in other operators. -/
theorem infix_amid {p q : List Char} (hp : ∀ c ∈ marks, c ∉ p) (hq : ∀ c ∈ marks, c ∉ q)
    {other : Operator} (h : other.sql.toList <:+: p ++ op.sql.toList ++ q) :
    other.sql.toList <:+: op.sql.toList := by
  have hfree {s : List Char} (hs : ∀ c ∈ marks, c ∉ s) : s.filter (· ∈ marks) = [] := by
    refine List.filter_eq_nil_iff.2 fun c hc hmark => ?_
    exact hs c (of_decide_eq_true hmark) hc
  have hown (op : Operator) : op.sql.toList.filter (· ∈ marks) = op.sql.toList :=
    List.filter_eq_self.2 fun c hc => decide_eq_true (mem_marks op c hc)
  have hmarks := h.filter (· ∈ marks)
  rwa [List.filter_append, List.filter_append, hfree hp, hfree hq, hown, hown, List.nil_append,
    List.append_nil] at hmarks

theorem extract_amid (hop : op ≠ .eq) {p q : String} (hp : ∀ c ∈ marks, c ∉ p.toList)
    (hq : ∀ c ∈ marks, c ∉ q.toList) : extract (p ++ op.sql ++ q) = (op, p ++ q) := by
  have hrest : ¬op.sql.toList <:+: q.toList := fun h => by
    obtain ⟨c, hc⟩ := List.exists_mem_of_ne_nil _ op.sql_ne_nil
    exact hq c (mem_marks op c hc) (h.subset hc)
  have hfront : ∀ c ∈ p.toList, c ∉ op.sql.toList := fun c hc hown => hp c (mem_marks op c hown) hc
  rw [extract_eq_iff hop, String.toList_append, String.toList_append]
  refine ⟨⟨_, _, rfl⟩, fun other hother h => ?_, ?_⟩
  · exact not_preferred_in_own op other hother (infix_amid hp hq h)
  · rw [List.append_assoc, Text.removeAll_append hfront op.sql_ne_nil,
      Text.removeAll_lead op.sql_ne_nil, (Text.removeAll_eq_self_iff op.sql_ne_nil).2 hrest,
      String.toList_append]

/-- A value without operators is compared as it is. Behind an operator it is, unless it holds
that operator or one that is looked for earlier, or makes one together with its first character.
Amid text without marks any operator is found, wherever it stands. -/
theorem extract_exact (v : String) :
    (extract v = (.eq, v) ↔ '<' ∉ v.toList ∧ '>' ∉ v.toList ∧ ¬['!', '='] <:+: v.toList) ∧
    (extract ("<=" ++ v) = (.le, v) ↔ ¬['<', '='] <:+: v.toList) ∧
    (extract (">=" ++ v) = (.ge, v) ↔ ¬['<', '='] <:+: v.toList ∧ ¬['>', '='] <:+: v.toList) ∧
    (extract ("<" ++ v) = (.lt, v) ↔
      ¬['='] <+: v.toList ∧ '<' ∉ v.toList ∧ ¬['>', '='] <:+: v.toList) ∧
    (extract (">" ++ v) = (.gt, v) ↔ ¬['='] <+: v.toList ∧ '<' ∉ v.toList ∧ '>' ∉ v.toList) ∧
    (extract ("!=" ++ v) = (.ne, v) ↔
      '<' ∉ v.toList ∧ '>' ∉ v.toList ∧ ¬['!', '='] <:+: v.toList) ∧
    ∀ p q : String, (∀ c ∈ ['<', '>', '!', '='], c ∉ p.toList ∧ c ∉ q.toList) →
      ∀ op : Operator, op ≠ .eq → extract (p ++ op.sql ++ q) = (op, p ++ q) := by
  have hle : ['<', '='] <:+: v.toList → '<' ∈ v.toList := fun h => h.subset (by simp)
  have hge : ['>', '='] <:+: v.toList → '>' ∈ v.toList := fun h => h.subset (by simp)
  refine ⟨?_, ?_, ?_, ?_, ?_, ?_, fun p q hfree op hop => ?_⟩
  · have hplain : extract v = (.eq, v) ↔ ¬['<', '='] <:+: v.toList ∧ ¬['>', '='] <:+: v.toList ∧
        '<' ∉ v.toList ∧ '>' ∉ v.toList ∧ ¬['!', '='] <:+: v.toList := by
      simpa [embedded, sql, List.singleton_infix_iff] using @extract_plain_iff v
    grind
  · simpa [preferred, embedded, sql] using @extract_lead_iff .le (by decide) v
  · simpa [preferred, embedded, sql, List.infix_cons_iff]
      using @extract_lead_iff .ge (by decide) v
  · have hlt : extract ("<" ++ v) = (.lt, v) ↔ ((¬['='] <+: v.toList ∧ ¬['<', '='] <:+: v.toList) ∧
        ¬['>', '='] <:+: v.toList) ∧ '<' ∉ v.toList := by
      simpa [preferred, embedded, sql, List.infix_cons_iff, List.singleton_infix_iff]
        using @extract_lead_iff .lt (by decide) v
    grind
  · have hgt : extract (">" ++ v) = (.gt, v) ↔ (¬['<', '='] <:+: v.toList ∧
        (¬['='] <+: v.toList ∧ ¬['>', '='] <:+: v.toList) ∧ '<' ∉ v.toList) ∧ '>' ∉ v.toList := by
      simpa [preferred, embedded, sql, List.infix_cons_iff, List.singleton_infix_iff]
        using @extract_lead_iff .gt (by decide) v
    grind
  · have hne : extract ("!=" ++ v) = (.ne, v) ↔ (¬['<', '='] <:+: v.toList ∧
        ¬['>', '='] <:+: v.toList ∧ '<' ∉ v.toList ∧ '>' ∉ v.toList) ∧
        ¬['!', '='] <:+: v.toList := by
      simpa [preferred, embedded, sql, List.infix_cons_iff, List.singleton_infix_iff]
        using @extract_lead_iff .ne (by decide) v
    grind
  · exact extract_amid hop (fun c hc => (hfree c hc).1) fun c hc => (hfree c hc).2

/-- An operator at the end of a value and one in the middle, and one that its operand undoes. -/
theorem extract_exact_amid :
    (∀ c ∈ ['<', '>', '!', '='], c ∉ "10".toList ∧ c ∉ "".toList) ∧ Operator.gt ≠ .eq ∧
      extract ("10" ++ ">" ++ "") = (.gt, "10") ∧ extract ("<" ++ "a>=b") ≠ (.lt, "a>=b") := by
  obtain ⟨-, -, -, hlt, -, -, hamid⟩ := extract_exact "a>=b"
  have hfree : ∀ c ∈ ['<', '>', '!', '='], c ∉ "10".toList ∧ c ∉ "".toList := by simp
  refine ⟨hfree, by decide, hamid "10" "" hfree .gt (by decide), fun h => ?_⟩
  exact (hlt.1 h).2.2 (by decide)

end Operator
end Tabular
