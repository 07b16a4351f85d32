import Tabular.Proofs.FilterReading
import Tabular.Proofs.RequestPieces
import Tabular.Store

/-!
# The columns that a statement addresses

A statement addresses the columns of its request if its text is one statement with one
name in the place of each column that denotes it, and with no parameters but those it
binds values for. Columns between quotes are always addressed. Of columns that are
written as they are, exactly the bare ones are.
-/

set_option autoImplicit false

namespace Tabular.Request

open Sql

structure Addressed (s : Statement) (ps : List Piece) : Prop where
  cuts : Cuts s.sql ps
  clean : ∀ t ∈ tokensOf s.sql, isStray t = false
  bound : parameterCount (tokensOf s.sql) = s.values.length

/-- A request for known columns of a plain table has a statement, and this addresses the
columns named, one after the other, exactly if those written as they are are bare. -/
theorem columns_addressed_iff {table : String} {types : ColumnTypes} (r : Request)
    (ht : Identifier.isPlain table) (hk : r.Known types) :
    ∃ s, r.statement table types = .ok s ∧
      (r.pieces table).flatMap Piece.names = r.columns ∧
      (Addressed s (r.pieces table) ↔ r.Bare) := by
  obtain ⟨hs, hsturdy⟩ := statement_known ht hk
  have htext : (r.written table types).sql.toList = pieceText (r.pieces table) :=
    String.toList_ofList
  refine ⟨_, hs, Piece.picks_names.request table r, fun h => ?_, fun h => ?_⟩
  · exact (plain_pieces table r).1 ((cuts_iff htext hsturdy).1 h.cuts)
  · have hplain := (plain_pieces table r).2 h
    have htokens := tokensOf_pieces htext hsturdy hplain
    refine ⟨(cuts_iff htext hsturdy).2 hplain, fun t hm => ?_, ?_⟩
    · rw [htokens, List.mem_append, List.mem_singleton] at hm
      rcases hm with hm | rfl
      · exact clean_pieces table r t hm
      · rfl
    · rw [htokens, parameterCount, List.countP_append]
      change parameterCount _ + 0 = _
      rw [parameterCount_pieces table types, written, List.length_map]
      rfl

def plainListing : Request :=
  .list ⟨[⟨"name", .descending⟩], .group (some .or) (.node (.leaf ⟨"age", ">=18"⟩)
    (.node (.leaf ⟨"name", "Ada"⟩) .nil)), ["name", "*"], 5⟩

theorem columns_addressed_iff_listing :
    let types : ColumnTypes := ⟨[("name", .string), ("age", .integer)]⟩
    Identifier.isPlain "people" ∧ plainListing.Known types ∧
      ∃ s, plainListing.statement "people" types = .ok s ∧
        s.sql = "SELECT name, * FROM people WHERE age>=? OR name=? ORDER BY name DESC LIMIT 5" ∧
        Addressed s (plainListing.pieces "people") := by
  intro types
  have ht : Identifier.isPlain "people" := by decide
  have hk : plainListing.Known types := by decide
  obtain ⟨s, hs, _, ha⟩ := columns_addressed_iff plainListing ht hk
  refine ⟨ht, hk, s, hs, ?_, ha.2 (by decide)⟩
  have hsql : (plainListing.statement "people" types).map Statement.sql =
      .ok "SELECT name, * FROM people WHERE age>=? OR name=? ORDER BY name DESC LIMIT 5" := by rfl
  rw [hs] at hsql
  exact Except.ok.inj hsql

def intruder : String := "id FROM t; DELETE FROM t; --"

def intruderTypes : ColumnTypes := ⟨[("id", .integer), (intruder, .string)]⟩

def intruderListing : Request := .list ⟨[], .group none .nil, [intruder], 0⟩

def intruderStore : Store :=
  let created := ((Store.ofConnection (.ofCatalog .empty false) 30000).run (.ofText
    "CREATE TABLE t(id INTEGER PRIMARY KEY, `id FROM t; DELETE FROM t; --` TEXT)")).2
  (created.run (.ofText "INSERT INTO t DEFAULT VALUES")).2

def rowsLeft (s : Store) : Option Nat :=
  (s.run (.ofText "SELECT * FROM t")).1.toOption.map fun a => a.rows.length

/-- The listing of a column of the table deletes its rows. -/
theorem listing_deletes :
    Identifier.isPlain "t" ∧ intruderListing.Known intruderTypes ∧
      ∃ s, intruderListing.statement "t" intruderTypes = .ok s ∧
        ¬Addressed s (intruderListing.pieces "t") ∧
        rowsLeft intruderStore = some 1 ∧ rowsLeft (intruderStore.run s).2 = some 0 := by
  refine ⟨by decide, by decide, _, rfl, fun h => ?_, by decide +kernel, by decide +kernel⟩
  have hs := h.clean ⟨[], [';'], .symbol⟩ (by decide)
  cases hs

end Tabular.Request
