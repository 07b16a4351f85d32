import Tabular.Proofs.BoundRuns
import Tabular.Proofs.ColumnAnswers
import Tabular.Proofs.NumberReading
import Tabular.Proofs.ParameterBinding
import Tabular.Proofs.RowChanges
import Tabular.Proofs.SilentStatements

/-!
# Requests on a plain table

The text of a request on a plain table is compiled into the instruction it says, and its
values are bound as the types of the columns ask for. So the request runs as its instruction.
-/

set_option autoImplicit false

namespace Tabular

open Sql Sql.Connection

def Binding.Gives (b : Binding) (v : Value) : Prop :=
  ∃ type, b.2 = some type ∧ Store.convert type b.1 = some v

namespace Request

def Bound (types : ColumnTypes) (r : Request) (bound : List Value) : Prop :=
  List.Forall₂ Binding.Gives (r.bindings types) bound

variable {table : String} {types : ColumnTypes} {r : Request} {bound : List Value}

theorem Bound.length_eq (h : r.Bound types bound) : (r.bindings types).length = bound.length :=
  List.Forall₂.length_eq h

theorem Bound.converted (h : r.Bound types bound) (table : String) :
    (r.written table types).values.length = (r.written table types).types.length ∧
      Store.Converted (r.written table types).typed bound := by
  rw [Bound] at h
  rw [Statement.typed, Store.Converted, written]
  generalize r.bindings types = bindings at h
  induction h with
  | nil => exact ⟨rfl, .nil⟩
  | @cons b v bindings bound hb _ ih =>
    obtain ⟨type, htype, hv⟩ := hb
    obtain ⟨hlength, hconverted⟩ := ih
    simp only [List.map_cons, List.filterMap_cons_some htype, List.length_cons, List.zip_cons_cons]
    exact ⟨congrArg (· + 1) hlength, .cons hv hconverted⟩

theorem bound_id (id : Int64) : List.Forall₂ Binding.Gives [idBinding id] [.int id] :=
  .cons ⟨.integer, rfl, Store.convert_toString id⟩ .nil

/-- A request runs as its instruction, if its text compiles here and was not compiled to other
columns before. -/
theorem run_here (types : ColumnTypes) {s : Store} {columns : List String} (hs : s.Reachable)
    (ht : Identifier.isPlain table) (hr : isReserved table = false) (hk : r.Known types)
    (ho : r.Ordinary types) (hb : r.Bound types bound) (hl : bound.length ≤ Parameters.limit)
    (hc : s.connection.columnsHere (r.instruction table) = .ok columns)
    (hkept : ∀ q, r.Compiled table types q →
      s.known (r.written table types).sql = some ⟨[q], ended⟩ → q.columns = columns) :
    let p : Prepared := ⟨r.instruction table, ⟨bound.length, []⟩, columns⟩
    let o := s.connection.run s.patience bound (r.instruction table)
    s.run (r.written table types) =
      (s.ofOutcome p o, ⟨o.1, s.keeping (r.written table types).sql ⟨[p], ended⟩, s.timeout⟩) := by
  intro p o
  have hlength := hb.length_eq
  obtain ⟨hv, hconverted⟩ := hb.converted table
  have hprepare := prepare_written ht hr hk ho (hlength.symm ▸ hl) s.connection
  rw [hc, hlength] at hprepare
  have hprepared := (compiles_written ht hk ho).prepared_here hs hprepare fun q hq hknown => by
    obtain ⟨instruction, parameters, named⟩ := q
    obtain rfl : instruction = r.instruction table := hq.instruction
    obtain rfl : parameters = ⟨bound.length, []⟩ := hlength ▸ hq.parameters
    obtain rfl : named = columns := hkept _ hq hknown
    rfl
  exact Store.run_compiled _ hprepared rfl hv hconverted

end Request

namespace Sql.Table

variable {t : Table} {fields : List Field} {pairs : List (Nat × Value)} {n : Nat} {c : Column}

theorem Plain.columns_ne (h : t.Plain) : t.columns ≠ [] := by
  obtain ⟨i, c, -, hc, -⟩ := h.numbered
  exact List.ne_nil_of_mem (List.mem_of_getElem? hc)

theorem Plain.type_of (h : t.Plain) (hn : t.columns[n]? = some c) :
    t.types.get? c.name = some (.ofDeclared c.type) := by
  have hsome : (t.columns.find? fun other => other.name = c.name).isSome :=
    List.find?_isSome.2 ⟨c, List.mem_of_getElem? hn, by simp⟩
  obtain ⟨other, hother⟩ := Option.isSome_iff_exists.1 hsome
  have hname : other.name = c.name := by simpa using List.find?_some hother
  obtain ⟨m, hm⟩ := List.mem_iff_getElem?.1 (List.mem_of_find?_eq_some hother)
  obtain rfl := h.place_inj hm hn (by rw [hname])
  obtain rfl := Option.some.inj (hm.symm.trans hn)
  rw [ColumnTypes.get?, types, List.find?_map]
  simp only [Function.comp_def, hother, Option.map_some]

theorem Plain.ordinary_types (h : t.Plain) : ∀ n ∈ t.types.names, isOrdinary n := by
  simpa [types, ColumnTypes.names] using h.ordinary

theorem Placed.known (ht : t.Plain) (h : t.Placed fields pairs) :
    ∀ f ∈ fields, (t.types.get? f.1).isSome := by
  induction h with
  | nil => simp
  | cons here named _ _ _ ih =>
    refine List.forall_mem_cons.2 ⟨?_, ih⟩
    rw [← named, ht.type_of here]
    rfl

theorem Placed.bound (ht : t.Plain) (h : t.Placed fields pairs) :
    List.Forall₂ Binding.Gives (fields.map (Field.binding t.types)) (pairs.map Prod.snd) := by
  induction h with
  | nil => exact .nil
  | cons here named _ converted _ ih =>
    refine .cons ⟨_, ?_, converted⟩ ih
    rw [Field.binding, ← named, ht.type_of here]

end Sql.Table

end Tabular
