import Mathlib
import Tabular.CommandLine.Variables
import Tabular.Proofs.Occurrences
import Tabular.Proofs.Trimming

/-!
# Variables from a file

The file of variables is the one of the current folder, or where there is none, that of the
nearest folder around it. Its assignments count for the variables that are not set otherwise, the
first one of a name alone.
-/

set_option autoImplicit false

namespace Tabular.CommandLine

open Tabular.Text

variable {α : Type}

def assignments (vars given : Variables) : List (Option (List Char)) → Variables
  | [] => []
  | none :: _ => []
  | some line :: rest =>
    match readLine vars given line with
    | none => []
    | some none => assignments vars given rest
    | some (some (name, value)) =>
      let vars := if (lookup? vars name).isSome then vars else vars ++ [(name, value)]
      (name, value) :: assignments vars ((name, value) :: given) rest

def assignmentsIn (vars : Variables) (content : String) : Variables :=
  assignments vars [] (fileLines content)

def NoVariableFile (files : Files α) (folder : Files.Place) : Prop :=
  ∀ e, files.at? (folder ++ [".env"]) = some e → e.isFolder

/-- What the file of variables assigns that is found from a folder: its own one, or else that of
the nearest folder around it. Nothing is assigned by a file that is no text. -/
inductive FileAssigns (files : Files α) (vars : Variables) : Files.Place → Variables → Prop
  | text {folder : Files.Place} {content : String}
      (here : files.at? (folder ++ [".env"]) = some (.text content)) :
      FileAssigns files vars folder (assignmentsIn vars content)
  | data {folder : Files.Place} {content : α}
      (here : files.at? (folder ++ [".env"]) = some (.data content)) :
      FileAssigns files vars folder []
  | around {folder : Files.Place} {found : Variables} (inside : folder ≠ [])
      (none : NoVariableFile files folder)
      (outside : FileAssigns files vars folder.dropLast found) :
      FileAssigns files vars folder found
  | nowhere (none : NoVariableFile files []) : FileAssigns files vars [] []

section

variable {files : Files α} {vars found found' : Variables} {folder : Files.Place}

theorem NoVariableFile.not_text {content : String} (h : NoVariableFile files folder) :
    files.at? (folder ++ [".env"]) ≠ some (.text content) := by
  intro he
  cases h _ he

theorem NoVariableFile.not_data {content : α} (h : NoVariableFile files folder) :
    files.at? (folder ++ [".env"]) ≠ some (.data content) := by
  intro he
  cases h _ he

theorem FileAssigns.unique (h : FileAssigns files vars folder found)
    (h' : FileAssigns files vars folder found') : found = found' := by
  induction h with
  | text here =>
    cases h' with
    | text here' => cases here.symm.trans here'; rfl
    | data here' => cases here.symm.trans here'
    | around _ none | nowhere none => exact absurd here none.not_text
  | data here =>
    cases h' with
    | text here' => cases here.symm.trans here'
    | data _ => rfl
    | around _ none | nowhere none => exact absurd here none.not_data
  | around inside none _ ih =>
    cases h' with
    | text here => exact absurd here none.not_text
    | data here => exact absurd here none.not_data
    | around _ _ outside => exact ih outside
    | nowhere _ => exact absurd rfl inside
  | nowhere none =>
    cases h' with
    | text here => exact absurd here none.not_text
    | data here => exact absurd here none.not_data
    | around inside _ _ => exact absurd rfl inside
    | nowhere _ => rfl

end

def Plain (c : Char) : Prop := 33 ≤ c.toNat ∧ c.toNat ≤ 126 ∧ c ∉ ['"', '\'', '\\', '$', '#']

structure PlainVariable (v : String × String) : Prop where
  name : ∃ c cs, v.1.toList = c :: cs ∧ (c.isAlpha ∨ c = '_') ∧ ∀ d ∈ cs, d.isAlphanum ∨ d = '_'
  value : v.2.toList ≠ [] ∧ ∀ c ∈ v.2.toList, Plain c

def plainLine (v : String × String) : List Char := v.1.toList ++ '=' :: v.2.toList

section

variable {c : Char} {s : List Char} {v : String × String}

theorem Plain.not_blank (h : Plain c) : isBlank c = false := by
  obtain ⟨hleast, hmost, -⟩ := h
  simp only [isBlank, Bool.or_eq_false_iff, Bool.and_eq_false_iff, decide_eq_false_iff_not,
    beq_eq_false_iff_ne]
  omega

theorem Plain.of_name (h : c.isAlphanum ∨ c = '_') : Plain c := by
  have hrange : 48 ≤ c.toNat ∧ c.toNat ≤ 122 := by
    rcases h with h | rfl
    · simp only [Char.isAlphanum, Char.isAlpha, Char.isUpper, Char.isLower, Char.isDigit,
        Bool.or_eq_true, Bool.and_eq_true, decide_eq_true_eq, ge_iff_le,
        UInt32.le_iff_toNat_le] at h
      change ((65 ≤ c.toNat ∧ c.toNat ≤ 90) ∨ (97 ≤ c.toNat ∧ c.toNat ≤ 122)) ∨
        (48 ≤ c.toNat ∧ c.toNat ≤ 57) at h
      omega
    · decide
  refine ⟨by omega, by omega, ?_⟩
  simp only [List.mem_cons, List.not_mem_nil, or_false, not_or]
  refine ⟨?_, ?_, ?_, ?_, ?_⟩ <;> (rintro rfl; revert h; decide)

theorem Plain.next (h : Plain c) : LineState.plain.next c = some .plain := by
  have hblank := h.not_blank
  obtain ⟨-, -, hmark⟩ := h
  simp only [List.mem_cons, List.not_mem_nil, or_false, not_or] at hmark
  obtain ⟨hdouble, hsingle, hback, -⟩ := hmark
  simp [LineState.next, hblank, hdouble, hsingle, hback]

theorem PlainVariable.plain (h : PlainVariable v) : ∀ c ∈ plainLine v, Plain c := by
  obtain ⟨first, others, hname, hfirst, hothers⟩ := h.name
  intro c hc
  rw [plainLine, hname, List.mem_append, List.mem_cons, List.mem_cons] at hc
  rcases hc with (rfl | hc) | rfl | hc
  · exact .of_name (hfirst.imp_left fun ha => by simp [Char.isAlphanum, ha])
  · exact .of_name (hothers c hc)
  · exact ⟨by decide, by decide, by decide⟩
  · exact h.value.2 c hc

end

end Tabular.CommandLine
