import Tabular.Proofs.UnknownColumns

/-!
# The first offence of a request

A request has a statement just if its table has a plain name, there is something to write
where it writes, and every column that it names is one of the table's. Else its error tells
the first of these that fails, the columns being taken in the order in which they are named.
-/

set_option autoImplicit false

namespace Tabular

namespace Identifier

def Letter (c : Char) : Prop := ('A' ≤ c ∧ c ≤ 'Z') ∨ ('a' ≤ c ∧ c ≤ 'z') ∨ c = '_'

def Digit (c : Char) : Prop := '0' ≤ c ∧ c ≤ '9'

def Plain (name : String) : Prop :=
  ∃ c cs, name.toList = c :: cs ∧ Letter c ∧ ∀ d ∈ cs, Letter d ∨ Digit d

theorem isLetter_iff {c : Char} : isLetter c = true ↔ Letter c := by
  simp [isLetter, Letter, or_assoc]

theorem isDigit_iff {c : Char} : isDigit c = true ↔ Digit c := by
  simp [isDigit, Digit]

theorem isPlain_iff {name : String} : isPlain name = true ↔ Plain name := by
  rw [isPlain, Plain]
  cases name.toList with
  | nil => simp
  | cons c cs => simp [isLetter_iff, isDigit_iff]

end Identifier

theorem ColumnTypes.get?_eq_none_iff {types : ColumnTypes} {column : String} :
    types.get? column = none ↔ column ∉ types.names := by
  simp only [get?, names, Option.map_eq_none_iff, List.find?_eq_none, List.mem_map, not_exists,
    not_and, decide_eq_true_eq]

theorem firstUnknown?_eq_some_iff {types : ColumnTypes} {names : List String} {column : String} :
    firstUnknown? types names = some column ↔ ∃ before after,
      names = before ++ column :: after ∧ (∀ c ∈ before, c ∈ types.names) ∧
        column ∉ types.names := by
  have hunknown (c : String) : (types.get? c).isNone = true ↔ c ∉ types.names := by
    rw [Option.isNone_iff_eq_none, ColumnTypes.get?_eq_none_iff]
  rw [firstUnknown?, List.find?_eq_some_iff_append]
  simp only [Bool.not_eq_true', ← Bool.not_eq_true, hunknown, not_not]
  grind

theorem firstUnknown?_eq_none_iff {types : ColumnTypes} {names : List String} :
    firstUnknown? types names = none ↔ ∀ c ∈ names, c ∈ types.names := by
  simp [firstUnknown?, ColumnTypes.get?_eq_none_iff]

namespace Request

inductive FirstOffence (table : String) (types : ColumnTypes) (r : Request) : AccessError → Prop
  | table (irregular : ¬Identifier.Plain table) :
      FirstOffence table types r (.invalidInput (.tableName table))
  | nothing (plain : Identifier.Plain table) (nothing : r.isVoid = true) :
      FirstOffence table types r (.invalidInput .noFields)
  | column (plain : Identifier.Plain table) (something : r.isVoid = false)
      {before after : List String} {column : String}
      (named : r.lookups = before ++ column :: after) (known : ∀ c ∈ before, c ∈ types.names)
      (unknown : column ∉ types.names) : FirstOffence table types r (.unknownColumn column)

variable {table : String} {types : ColumnTypes} {r : Request} {e : AccessError}

theorem complaint_eq_some_iff (ht : Identifier.Plain table) :
    r.complaint types = some e ↔ r.FirstOffence table types e := by
  rw [complaint]
  constructor
  · intro h
    split at h
    · next hr =>
      obtain rfl := Option.some.inj h
      exact .nothing ht hr
    · next hr =>
      obtain ⟨column, hfirst, rfl⟩ := Option.map_eq_some_iff.1 h
      obtain ⟨before, after, hnamed, hknown, hunknown⟩ := firstUnknown?_eq_some_iff.1 hfirst
      exact .column ht (Bool.eq_false_iff.2 hr) hnamed hknown hunknown
  · intro h
    cases h with
    | table irregular => exact absurd ht irregular
    | nothing _ hr => rw [if_pos hr]
    | column _ hr hnamed hknown hunknown =>
      rw [if_neg (Bool.eq_false_iff.1 hr),
        firstUnknown?_eq_some_iff.2 ⟨_, _, hnamed, hknown, hunknown⟩]
      rfl

theorem complaint_eq_none_iff :
    r.complaint types = none ↔ r.isVoid = false ∧ ∀ c ∈ r.lookups, c ∈ types.names := by
  rw [complaint, ← firstUnknown?_eq_none_iff]
  cases r.isVoid <;> simp

/-- A request has a statement just if its table has a plain name, there is something to write and
every column that it names is one of the table's. Else it fails with its first offence. -/
theorem statement_iff_no_offence (table : String) (types : ColumnTypes) (r : Request) :
    ((∃ s, r.statement table types = .ok s) ↔ Identifier.Plain table ∧ r.isVoid = false ∧
      ∀ c ∈ r.lookups, c ∈ types.names) ∧
    ∀ e, r.statement table types = .error e ↔ r.FirstOffence table types e := by
  rw [← complaint_eq_none_iff]
  by_cases ht : Identifier.Plain table
  · rw [statement_eq (Identifier.isPlain_iff.2 ht)]
    refine ⟨?_, fun e => ?_⟩
    · cases r.complaint types <;> simp [ht]
    · rw [← complaint_eq_some_iff ht]
      cases r.complaint types <;> simp
  · have hplain : Identifier.isPlain table = false :=
      Bool.eq_false_iff.2 fun h => ht (Identifier.isPlain_iff.1 h)
    rw [statement_irregular hplain]
    refine ⟨by simp [ht], fun e => ⟨fun h => ?_, fun h => ?_⟩⟩
    · obtain rfl := Except.error.inj h
      exact .table ht
    · cases h with
      | table _ => rfl
      | nothing plain _ => exact absurd plain ht
      | column plain _ _ _ _ => exact absurd plain ht

end Request
end Tabular
