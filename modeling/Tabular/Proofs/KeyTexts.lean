import Mathlib
import Tabular.CommandLine.Command
import Tabular.Proofs.Occurrences
import Tabular.Proofs.Results
import Tabular.Proofs.Trimming

/-!
# Sort keys and fields as texts

The texts that are read as a sort key, and those that are read as a field, with what is read
from each of them. What is written for a key or a field is read back as it.
-/

set_option autoImplicit false

namespace Tabular

open Tabular.Text

namespace Direction

def word : Direction → List Char
  | .ascending => "asc".toList
  | .descending => "desc".toList

def Named (d : Direction) (s : List Char) : Prop := s.map Char.toLower = d.word

variable {d : Direction} {s : List Char}

theorem word_alpha (d : Direction) : ∀ c ∈ d.word, c.isAlpha = true := by
  cases d <;> simp [word]

theorem Named.alpha (h : d.Named s) : ∀ c ∈ s, c.isAlpha = true := by
  intro c hc
  rw [← Char.isAlpha_toLower_eq_isAlpha]
  apply d.word_alpha
  rw [← h]
  exact List.mem_map_of_mem hc

theorem Named.tidy (h : d.Named s) : Tidy s :=
  .of_all fun c hc => isBlank_of_isAlpha (h.alpha c hc)

theorem Named.no_colon (h : d.Named s) : ':' ∉ s := by
  intro hcolon
  have halpha := h.alpha ':' hcolon
  exact absurd halpha (by decide)

theorem read_iff {s : String} : read s = .ok d ↔ d.Named (trim s.toList) := by
  have hlower : (lower (trimmed s)).toList = (trim s.toList).map Char.toLower := by
    rw [lower, trimmed, String.toList_ofList, String.toList_ofList]
  rw [Named, ← hlower, read]
  split
  · next h => rw [h]; cases d <;> simp [word]
  · next h => rw [h]; cases d <;> simp [word]
  · next hasc hdesc =>
    have hother : (lower (trimmed s)).toList ≠ d.word := by
      cases d with
      | ascending => exact fun h => hasc (String.toList_inj.1 h)
      | descending => exact fun h => hdesc (String.toList_inj.1 h)
    exact iff_of_false nofun hother

end Direction

namespace SortKey

/-- A text with at most one colon: a column, or a column and the word of a direction, each with
any white space around it. -/
inductive Written : SortKey → List Char → Prop
  | bare {s column : List Char} (plain : ':' ∉ s) (column_of : Strips s column)
      (filled : column ≠ []) : Written ⟨String.ofList column, .ascending⟩ s
  | directed {front back column word : List Char} {d : Direction} (plain : ':' ∉ front)
      (last : ':' ∉ back) (column_of : Strips front column) (filled : column ≠ [])
      (word_of : Strips back word) (named : d.Named word) :
      Written ⟨String.ofList column, d⟩ (front ++ ':' :: back)

theorem read_bare {s : String} (h : ':' ∉ s.toList) :
    read s = if trim s.toList = [] then .error (.order s) else .ok ⟨trimmed s, .ascending⟩ := by
  rw [read, splitAll_of_not_mem h]
  simp only [List.map_cons, List.map_nil, String.ofList_toList, blank_iff]

theorem read_directed {s : String} {front back : List Char}
    (h : splitAll ':' s.toList = [front, back]) :
    read s = if trim front = [] then .error (.order s)
      else (Direction.read (String.ofList back)).map
        fun d => ⟨String.ofList (trim front), d⟩ := by
  rw [read, h]
  simp only [List.map_cons, List.map_nil, blank_iff, trimmed, String.toList_ofList]

theorem read_iff {s : String} {k : SortKey} : read s = .ok k ↔ k.Written s.toList := by
  constructor
  · intro h
    cases hparts : splitAll ':' s.toList with
    | nil => exact absurd hparts splitAll_ne_nil
    | cons front parts =>
      cases parts with
      | nil =>
        obtain ⟨rfl, hplain⟩ := splitAll_eq_singleton.1 hparts
        rw [read_bare hplain] at h
        split at h
        · cases h
        · next hfilled =>
          obtain rfl := Except.ok.inj h
          exact .bare hplain (strips_trim _) hfilled
      | cons back parts =>
        cases parts with
        | nil =>
          obtain ⟨hs, hfront, hback⟩ := splitAll_eq_pair.1 hparts
          rw [read_directed hparts] at h
          split at h
          · cases h
          · next hfilled =>
            obtain ⟨d, hd, rfl⟩ := map_eq_ok.1 h
            have hnamed := Direction.read_iff.1 hd
            rw [String.toList_ofList] at hnamed
            rw [hs]
            exact .directed hfront hback (strips_trim _) hfilled (strips_trim _) hnamed
        | cons _ _ =>
          rw [read, hparts] at h
          cases h
  · generalize hs : s.toList = text
    intro h
    cases h with
    | bare plain column_of filled =>
      subst hs
      rw [read_bare plain, column_of.trim_eq, if_neg filled, trimmed, column_of.trim_eq]
    | @directed front back column word d plain last column_of filled word_of named =>
      have hparts : splitAll ':' s.toList = [front, back] := splitAll_eq_pair.2 ⟨hs, plain, last⟩
      have hd : Direction.read (String.ofList back) = .ok d := by
        rw [Direction.read_iff, String.toList_ofList, word_of.trim_eq]
        exact named
      rw [read_directed hparts, column_of.trim_eq, if_neg filled, hd]
      rfl

theorem toList_sql (k : SortKey) :
    k.sql.toList = k.column.toList ++ ' ' :: k.direction.word.map Char.toUpper := by
  have hword : k.direction.sql.toList = k.direction.word.map Char.toUpper := by
    cases k.direction <;> decide
  rw [sql, String.toList_append, String.toList_append, hword, List.append_assoc]
  rfl

end SortKey

namespace Field

/-- A column with any white space around it, the first equals sign and any value behind it. -/
inductive Written : Field → List Char → Prop
  | mk {front column value : List Char} (plain : '=' ∉ front) (column_of : Strips front column)
      (filled : column ≠ []) :
      Written (String.ofList column, String.ofList value) (front ++ '=' :: value)

theorem cut?_equals {s front value : List Char} :
    cut? ['='] s = some (front, value) ↔ s = front ++ '=' :: value ∧ '=' ∉ front := by
  rw [cut?_eq_some (List.cons_ne_nil _ _), List.dropLast_concat, List.singleton_infix_iff,
    List.append_assoc, List.singleton_append]

theorem read?_iff {s : String} {f : Field} : read? s = some f ↔ f.Written s.toList := by
  constructor
  · intro h
    rw [read?] at h
    cases hcut : cut? ['='] s.toList with
    | none => rw [hcut] at h; cases h
    | some parts =>
      obtain ⟨front, value⟩ := parts
      obtain ⟨hs, hplain⟩ := cut?_equals.1 hcut
      simp only [hcut] at h
      split at h
      · cases h
      · next hfilled =>
        obtain rfl := Option.some.inj h
        rw [hs]
        exact .mk hplain (strips_trim front) hfilled
  · generalize hs : s.toList = text
    intro h
    cases h with
    | @mk front column value plain column_of filled =>
      have hcut : cut? ['='] s.toList = some (front, value) := cut?_equals.2 ⟨hs, plain⟩
      simp only [read?, hcut, column_of.trim_eq, if_neg filled]

end Field

structure ColumnText (sep : Char) (column : String) : Prop where
  filled : column.toList ≠ []
  tidy : Tidy column.toList
  plain : sep ∉ column.toList

/-- Which texts are sort keys and which are fields, and of what. A key that is written with any
white space around its two parts is read back, and so is any field, its value untouched. -/
theorem keyTexts_read_back :
    (∀ (s : String) (k : SortKey), SortKey.read s = .ok k ↔ k.Written s.toList) ∧
    (∀ (column word g₁ g₂ g₃ g₄ : String) (d : Direction), ColumnText ':' column →
      d.Named word.toList → (∀ g ∈ [g₁, g₂, g₃, g₄], Blanks g.toList) →
      SortKey.read (g₁ ++ column ++ g₂ ++ ":" ++ (g₃ ++ word ++ g₄)) = .ok ⟨column, d⟩) ∧
    (∀ k : SortKey,
      k.sql.toList = k.column.toList ++ ' ' :: k.direction.word.map Char.toUpper) ∧
    (∀ (s : String) (f : Field), Field.read? s = some f ↔ f.Written s.toList) ∧
    ∀ column value : String, ColumnText '=' column →
      Field.read? (column ++ "=" ++ value) = some (column, value) := by
  refine ⟨fun s k => SortKey.read_iff, ?_, SortKey.toList_sql, fun s f => Field.read?_iff, ?_⟩
  · intro column word g₁ g₂ g₃ g₄ d hcolumn hword hg
    simp only [List.forall_mem_cons] at hg
    obtain ⟨hg₁, hg₂, hg₃, hg₄, -⟩ := hg
    have hfront := Strips.mk hg₁ hcolumn.tidy hg₂
    have hback := Strips.mk hg₃ hword.tidy hg₄
    have hcolon : isBlank ':' = false := by decide
    have hplain : ':' ∉ g₁.toList ++ (column.toList ++ g₂.toList) := by
      simp only [List.mem_append, not_or]
      exact ⟨hg₁.not_mem hcolon, hcolumn.plain, hg₂.not_mem hcolon⟩
    have hlast : ':' ∉ g₃.toList ++ (word.toList ++ g₄.toList) := by
      simp only [List.mem_append, not_or]
      exact ⟨hg₃.not_mem hcolon, hword.no_colon, hg₄.not_mem hcolon⟩
    have hwritten := SortKey.Written.directed hplain hlast hfront hcolumn.filled hback hword
    rw [String.ofList_toList] at hwritten
    rw [SortKey.read_iff]
    simpa only [String.toList_append, List.append_assoc, show ":".toList = [':'] by decide,
      List.singleton_append] using hwritten
  · intro column value hcolumn
    have hnone : Blanks [] := nofun
    have hstrips := Strips.mk hnone hcolumn.tidy hnone
    rw [List.nil_append, List.append_nil] at hstrips
    have hwritten : Field.Written (String.ofList column.toList, String.ofList value.toList)
        (column.toList ++ '=' :: value.toList) := .mk hcolumn.plain hstrips hcolumn.filled
    rw [String.ofList_toList, String.ofList_toList] at hwritten
    rw [Field.read?_iff]
    simpa only [String.toList_append, List.append_assoc, show "=".toList = ['='] by decide,
      List.singleton_append] using hwritten

theorem keyTexts_read_back_padded :
    SortKey.read " first name \t:DeSc" = .ok ⟨"first name", .descending⟩ ∧
      Field.read? "name= a=b " = some ("name", " a=b ") := by
  have hcolumn : ColumnText ':' "first name" :=
    ⟨by decide, ⟨by simp [isBlank], by simp [isBlank]⟩, by decide⟩
  have hblanks : ∀ g ∈ [" ", " \t", "", ""], Blanks g.toList := by
    simp [Blanks, isBlank]
  have hname : ColumnText '=' "name" :=
    ⟨by decide, ⟨by simp [isBlank], by simp [isBlank]⟩, by decide⟩
  obtain ⟨-, hkey, -, -, hfield⟩ := keyTexts_read_back
  exact ⟨hkey "first name" "DeSc" " " " \t" "" "" .descending hcolumn rfl hblanks,
    hfield "name" " a=b " hname⟩

end Tabular
