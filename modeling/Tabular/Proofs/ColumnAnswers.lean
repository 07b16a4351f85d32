import Tabular.Proofs.BoundRuns
import Tabular.Proofs.CacheCoherence
import Tabular.Proofs.PlainTables
import Tabular.Proofs.RowSelection

/-!
# The types of a plain table's columns

Asked for the columns of a plain table, a connection names all of them in their order, each
with the type that it was declared with.
-/

set_option autoImplicit false

namespace Tabular

open Sql Sql.Connection

namespace ColumnCache

def askedPlan : Plan :=
  .query ⟨2, [.binary, .binary], .select [⟨.columnsOf (.parameter 1), 6, .inner, none⟩] none none
    [.place ⟨0, 1⟩, .place ⟨0, 2⟩, .place ⟨0, 0⟩] false, [], [⟨2, .binary, false, true⟩],
    none, none⟩

theorem resolve_asked (catalog : Catalog) :
    ∃ headings, resolveQuery (Site.ofCatalog catalog) askedQuery = .ok ⟨askedPlan, headings⟩ :=
  ⟨_, rfl⟩

variable {t : Table} {name : String} {s : Scene}

def placedColumn (x : Column × Nat) : Row := [.text x.1.name, .text x.1.type, .ofNat x.2]

theorem ofNat_lt {i j : Nat} (h : i < j) (hj : j ≤ Parameters.limit) :
    Int64.ofNat i < Int64.ofNat j := by
  have hlimit : Parameters.limit < 2 ^ 63 := by decide
  rw [Int64.lt_iff_toInt_lt, Int64.toInt_ofNat_of_lt (by omega), Int64.toInt_ofNat_of_lt (by omega)]
  exact Int.ofNat_lt.2 h

theorem sorted_placed (h : t.width ≤ Parameters.limit) :
    sorted [⟨2, .binary, false, true⟩] (t.columns.zipIdx.map placedColumn) =
      t.columns.zipIdx.map placedColumn := by
  rw [sorted, if_neg (by simp)]
  refine List.mergeSort_of_pairwise (List.pairwise_iff_getElem.2 fun i j hi hj hlt => ?_)
  have hwidth : j < t.width := by simpa [Table.width] using hj
  have horder : Int64.ofNat i < Int64.ofNat j := ofNat_lt hlt (by omega)
  simp [placedColumn, compareBy, SortColumn.compare, Value.ofNat, Value.isNull, Value.compare,
    horder]

/-- The columns of a table are all that the source of the query yields. -/
theorem joinAll_asked {run : Plan → Scene → Except Fault Found} (hn : s.parameters = [.text name])
    (hd : s.describe name = .ok (tableInfo t)) :
    joinAll run s (.all [[]]) 0 [⟨.columnsOf (.parameter 1), 6, .inner, none⟩] =
      .ok (.all (tableInfo t)) := by
  refine joinAll_one rfl ?_ 6
  have hvalue : Expr.eval run (s.within []) (.parameter 1) = .ok (.text name) := by
    simp [Expr.eval, Scene.within, hn]
  have hrows : s.describe (Value.text name).shown = .ok (tableInfo t) := hd
  rw [hvalue]
  simp only [bind, Except.bind, hrows]

theorem run_askedPlan (h : t.width ≤ Parameters.limit) (hn : s.parameters = [.text name])
    (hd : s.describe name = .ok (tableInfo t)) :
    askedPlan.run s = .ok (.all (t.columns.map fun c => [.text c.name, .text c.type])) := by
  have houtputs : (tableInfo t).mapM (fun row => Expr.evalAll innerRun (s.within row)
      [.place ⟨0, 1⟩, .place ⟨0, 2⟩, .place ⟨0, 0⟩]) =
        .ok (t.columns.zipIdx.map placedColumn) := by
    rw [tableInfo, List.mapM_map]
    exact mapM_ok fun x _ => rfl
  have hstage : (Stage.select [⟨.columnsOf (.parameter 1), 6, .inner, none⟩] none none
      [.place ⟨0, 1⟩, .place ⟨0, 2⟩, .place ⟨0, 0⟩] false).run innerRun s [.binary, .binary] =
        .ok (.all (t.columns.zipIdx.map placedColumn)) := by
    have hkeep : keep (fun row => Expr.isTrue innerRun (s.within row) none) (tableInfo t) =
        .ok (tableInfo t) := keep_all _
    rw [Stage.run, joinAll_asked hn hd]
    simp only [bind, Except.bind, Found.all, hkeep, houtputs]
    rfl
  have hnames : (t.columns.zipIdx.map placedColumn).map (fun row => row.take 2) =
      t.columns.map fun c => [.text c.name, .text c.type] := by
    have hcolumns := congrArg (List.map fun c : Column => [Value.text c.name, .text c.type])
      (List.zipIdx_map_fst 0 t.columns)
    rw [List.map_map] at hcolumns ⊢
    exact hcolumns
  change PlanOf.run innerRun s _ = _
  rw [PlanOf.run, hstage]
  simp only [bind, Except.bind, List.foldlM_nil, pure, Except.pure, limitValue, Found.complete,
    Found.all, Bool.false_eq_true, if_false, sorted_placed h, cutTo, Option.getD_none,
    Int.toNat_zero, List.drop_zero, List.isEmpty_cons, hnames]

/-- A connection names the columns of a table with their types. -/
theorem run_asked {c : Connection} {patience : Nat} (h : t.width ≤ Parameters.limit)
    (ht : c.catalog.readable? name = some t) :
    c.run patience [.text name] (.query askedQuery) =
      (c, .ok (t.columns.map fun column => [.text column.name, .text column.type])) := by
  have hdescribe : (c.scene [.text name] patience).describe name = .ok (tableInfo t) := by
    simp only [scene, describe, ht]
  exact run_query (resolve_asked c.catalog) (run_askedPlan h rfl hdescribe)

end ColumnCache

def Sql.Table.types (t : Table) : ColumnTypes :=
  ⟨t.columns.map fun c => (c.name, .ofDeclared c.type)⟩

namespace ColumnCache

variable {t : Table} {name : String}

theorem types_named (h : t.columns ≠ []) :
    types name (.ok (.ofRows ((t.columns.map fun c => [Value.text c.name, .text c.type]).map
      (NamedRow.ofValues ["name", "type"])))) = .ok t.types := by
  have hcolumns : ((t.columns.map fun c => [Value.text c.name, .text c.type]).map
      (NamedRow.ofValues ["name", "type"])).mapM (column name) = .ok t.types.columns := by
    rw [List.map_map, List.mapM_map, Table.types]
    exact mapM_ok fun c _ => rfl
  have hsome : t.types.columns.isEmpty = false := by
    simpa [Table.types] using h
  have hrows (rows : List NamedRow) : (Answer.ofRows rows).rows = rows := rfl
  simp only [types, hrows, hcolumns, bind, Except.bind, hsome, Bool.false_eq_true, if_false]

theorem answerAbout_plain {s : Store} (hs : Asked s) (hi : s.connection.damaged = false)
    (h : t.width ≤ Parameters.limit) (hne : t.columns ≠ [])
    (ht : s.connection.catalog.readable? name = some t) : answerAbout s name = .ok t.types := by
  have hprepared : Store.prepared s.connection (s.known questionText) questionText =
      (⟨[asked.prepared], Connection.ended⟩, none) :=
    (Question.prepared_eq (q := asked) s.connection hs).trans (Question.compiled_intact hi)
  have hbound : Store.Converted (question name).typed [.text name] := .cons rfl .nil
  have hrows : s.connection.run s.patience [.text name] asked.prepared.instruction =
      (s.connection, .ok (t.columns.map fun column => [.text column.name, .text column.type])) :=
    run_asked h ht
  have hrun := Store.run_compiled (question name) hprepared rfl rfl hbound
  rw [answerAbout, hrun]
  simp only [Store.ofOutcome, hrows]
  exact types_named hne

end ColumnCache
end Tabular
