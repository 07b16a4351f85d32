import Tabular.Proofs.ColumnAnswers
import Tabular.Proofs.Layout
import Tabular.Proofs.TextOrder

/-!
# Two questions about the catalog

One asks for the tables of the catalog whose names are like no name of an internal one, the
other for the tables of a name. Both read the catalog as a table of its lasting items.
-/

set_option autoImplicit false

namespace Tabular.Sql

namespace CatalogQueries

def schemaName : String := "sqlite_master"

def source : Source Query :=
  ⟨.named ⟨none, schemaName, schemaName⟩, none, .inner, false, none, []⟩

def column (name : String) : Words := .column none name .bare

def output (name : String) : ResultColumn Query := .term (column name) none name

def tableTerm : Words := .binary .equal (column "type") (.value (.text "table"))

def internalPattern : String := "sqlite_%"

def listingQuery : Query :=
  .mk ⟨false, [], .select false [output "name", output "type", output "sql"] [source]
    (some (.binary .and tableTerm
      (.unary .not (.call "LIKE" false [.value (.text internalPattern), column "name"])))) [] none,
    [], [⟨column "name", false, none⟩], none, none⟩

def presenceQuery : Query :=
  .mk ⟨false, [], .select false [output "name"] [source]
    (some (.binary .and tableTerm (.binary .equal (column "name") (.parameter 1)))) [] none,
    [], [], none, none⟩

def tableTokens (names : List Token) : List Token :=
  [Token.word [] "SELECT"] ++ names ++
    [.word [' '] "FROM", .word [' '] schemaName, .word [' '] "WHERE", .word [' '] "type",
      .symbol [] "=", ⟨[], "'table'".toList, .string "table"⟩, .word [' '] "AND",
      .word [' '] "name"]

def listingTokens : List Token :=
  tableTokens [.word [' '] "name", .symbol [] ",", .word [' '] "type", .symbol [] ",",
      .word [' '] "sql"] ++
    [.word [' '] "NOT", .word [' '] "LIKE", ⟨[' '], "'sqlite_%'".toList, .string internalPattern⟩,
      .word [' '] "ORDER", .word [' '] "BY", .word [' '] "name", .finish]

def presenceTokens (number : Nat) : List Token :=
  tableTokens [.word [' '] "name"] ++ [.symbol [] "=", ⟨[], ['?'], .parameter number⟩, .finish]

def listingText : String :=
  "SELECT name, type, sql FROM sqlite_master WHERE type='table' AND name NOT LIKE 'sqlite_%' " ++
    "ORDER BY name"

def presenceText : String := "SELECT name FROM sqlite_master WHERE type='table' AND name=?"

theorem tokensOf_listing : tokensOf listingText = listingTokens := by decide +kernel

theorem tokensOf_presence : tokensOf presenceText = presenceTokens 0 := by decide +kernel

def listing : Question where
  sql := listingText
  query := listingQuery
  tokens := listingTokens
  parameters := ⟨0, []⟩
  columns := ["name", "type", "sql"]
  trimmed := by decide +kernel
  begins := by
    rw [tokensOf_listing]
    rfl
  numbered := by
    rw [tokensOf_listing]
    rfl
  read := by rfl
  readable _ := by rfl
  unreadable := by rfl

def presence : Question where
  sql := presenceText
  query := presenceQuery
  tokens := presenceTokens 1
  parameters := ⟨1, []⟩
  columns := ["name"]
  trimmed := by decide +kernel
  begins := by
    rw [tokensOf_presence]
    rfl
  numbered := by
    rw [tokensOf_presence]
    rfl
  read := by rfl
  readable _ := by rfl
  unreadable := by rfl

def joined : Joined Plan := ⟨.table schemaName, 6, .inner, none⟩

def tableFormula : Formula :=
  .compare .equal .text .binary (.place ⟨0, 0⟩) (.value (.text "table"))

def listedFormula : Formula :=
  .binary .and tableFormula
    (.unary .not (.call .like .binary [.value (.text internalPattern), .place ⟨0, 1⟩]))

def namedFormula : Formula :=
  .binary .and tableFormula (.compare .equal .text .binary (.place ⟨0, 1⟩) (.parameter 1))

def listingPlan : Plan :=
  .query ⟨3, [.binary, .binary, .binary], .select [joined] (some listedFormula) none
    [.place ⟨0, 1⟩, .place ⟨0, 0⟩, .place ⟨0, 4⟩, .place ⟨0, 1⟩] false, [],
    [⟨3, .binary, false, true⟩], none, none⟩

def presencePlan : Plan :=
  .query ⟨1, [.binary], .select [joined] (some namedFormula) none [.place ⟨0, 1⟩] false, [], [],
    none, none⟩

theorem resolve_listing (catalog : Catalog) :
    ∃ headings, resolveQuery (Site.ofCatalog catalog) listingQuery = .ok ⟨listingPlan, headings⟩ :=
  ⟨_, rfl⟩

theorem resolve_presence (catalog : Catalog) :
    ∃ headings,
      resolveQuery (Site.ofCatalog catalog) presenceQuery = .ok ⟨presencePlan, headings⟩ :=
  ⟨_, rfl⟩

end CatalogQueries

namespace Catalog

def lastingItems (c : Catalog) : List Item := c.items.filter fun i => i.temporary = false

def lastingTables (c : Catalog) : List Table := c.lastingItems.filterMap Item.table?

theorem ordered_schemaTable (c : Catalog) :
    (c.schemaTable CatalogQueries.schemaName).ordered =
      c.lastingItems.zipIdx.map fun (i, n) => (Int64.ofNat (n + 1), schemaRow i) := by
  have htemporary : (sameName CatalogQueries.schemaName "sqlite_temp_master" ||
      sameName CatalogQueries.schemaName "sqlite_temp_schema") = false := by decide +kernel
  rw [Table.ordered, schemaTable, htemporary]
  change List.zipWith _ (List.range (c.lastingItems.map schemaRow).length)
    (c.lastingItems.map schemaRow) = _
  refine List.ext_getElem (by simp) fun i hi hi' => ?_
  simp

/-- The items that are tables and pass a test are the tables that pass it. -/
theorem filter_tables {α : Type} (p : Table → Bool) {f : Table → α} {g : Item → α}
    (h : ∀ t, g (.table t) = f t) (items : List Item) :
    (items.filter fun i => i.table?.any p).map g =
      ((items.filterMap Item.table?).filter p).map f := by
  induction items with
  | nil => rfl
  | cons i items ih =>
    cases i with
    | table t =>
      rw [List.filterMap_cons_some (f := Item.table?) rfl]
      by_cases hp : p t
      · rw [List.filter_cons_of_pos (by exact hp), List.filter_cons_of_pos hp, List.map_cons,
          List.map_cons, ih, h]
      · rw [List.filter_cons_of_neg (by exact hp), List.filter_cons_of_neg hp, ih]
    | index | view =>
      rw [List.filterMap_cons_none (f := Item.table?) rfl,
        List.filter_cons_of_neg Bool.false_ne_true, ih]

end Catalog

namespace CatalogQueries

variable {run : Plan → Scene → Except Fault Found} {s : Scene}

def seenItem (i : Item × Nat) : Row := Table.seen (Int64.ofNat (i.2 + 1)) (Catalog.schemaRow i.1)

def catalogRows (c : Catalog) : List Row := c.lastingItems.zipIdx.map seenItem

theorem supply_catalog :
    (Supply.table schemaName).rows run s = .ok fun _ => .ok (.all (catalogRows s.catalog)) := by
  have hreadable : s.catalog.readable? schemaName = some (s.catalog.schemaTable schemaName) := by
    rw [Catalog.readable?, if_pos (by decide +kernel)]
  simp only [Supply.rows, hreadable, Catalog.ordered_schemaTable, List.map_map]
  rfl

theorem joinAll_catalog :
    joinAll run s (.all [[]]) 0 [joined] = .ok (.all (catalogRows s.catalog)) :=
  joinAll_one supply_catalog rfl 6

def kindWord : Item → String
  | .table _ => "table"
  | .index _ => "index"
  | .view _ => "view"

theorem place_kind (s : Scene) (n : Int64) (i : Item) :
    (s.within (Table.seen n (Catalog.schemaRow i))).place ⟨0, 0⟩ = .text (kindWord i) := by
  cases i <;> rfl

theorem place_name (s : Scene) (n : Int64) (i : Item) :
    (s.within (Table.seen n (Catalog.schemaRow i))).place ⟨0, 1⟩ = .text i.name := by
  cases i <;> rfl

theorem equal_texts (a b : String) :
    BinaryOp.equal.compare .text .binary (.text a) (.text b) = .ofBool (a = b) := by
  have hcompared : Affinity.text.compared (.text a) (.text b) = (.text a, .text b) := rfl
  rw [BinaryOp.compare, hcompared]
  simp only [Value.isNull, Bool.or_self, Bool.false_and, Bool.false_eq_true, if_false,
    BinaryOp.holds, Value.compare_text_eq]

theorem like_texts (counters : Counters) (c : Collation) (pattern text : String) :
    Scalar.like.apply counters c [.text pattern, .text text] =
      .ok (.ofBool (Pattern.like none pattern.toList text.toList)) := rfl

theorem and_ofBool (a b : Bool) :
    BinaryOp.and.apply (.ofBool a) (.ofBool b) = .ofBool (a && b) := by
  cases a <;> cases b <;> rfl

theorem not_ofBool (a : Bool) : UnaryOp.not.apply (.ofBool a) = .ofBool (!a) := by
  cases a <;> rfl

theorem truth_ofBool (a : Bool) : (Value.ofBool a).truth = some a := by
  cases a <;> rfl

def isListed (t : Table) : Bool := !Pattern.like none internalPattern.toList t.name.toList

theorem isTrue_listed (n : Int64) (i : Item) :
    Expr.isTrue run (s.within (Table.seen n (Catalog.schemaRow i))) (some listedFormula) =
      .ok (i.table?.any isListed) := by
  simp only [Expr.isTrue, listedFormula, tableFormula, Expr.eval, Expr.evalAll, bind, Except.bind,
    place_kind, place_name, equal_texts, like_texts, not_ofBool, and_ofBool, Except.map,
    truth_ofBool]
  cases i <;> simp [kindWord, isListed, Item.table?, Item.name]

theorem isTrue_named {name : String} (h : s.parameters = [.text name]) (n : Int64) (i : Item) :
    Expr.isTrue run (s.within (Table.seen n (Catalog.schemaRow i))) (some namedFormula) =
      .ok (i.table?.any fun t => t.name = name) := by
  have hname : ((s.within (Table.seen n (Catalog.schemaRow i))).parameters[1 - 1]?).getD .null =
      .text name := by simp [Scene.within, h]
  simp only [Expr.isTrue, namedFormula, tableFormula, Expr.eval, bind, Except.bind, place_kind,
    place_name, hname, equal_texts, and_ofBool, Except.map, truth_ofBool]
  cases i with
  | table t =>
    simp only [kindWord, decide_true, Bool.true_and, Option.some.injEq, Bool.decide_eq_true]
    rfl
  | index | view => simp [kindWord, Item.table?]

/-- A selection from the catalog by a test of its items. -/
theorem run_select {condition : Formula} {outputs : List Formula} {p : Table → Bool}
    {g : Item → Row} {f : Table → Row} (cs : List Collation)
    (hmet : ∀ n i, Expr.isTrue run (s.within (Table.seen n (Catalog.schemaRow i)))
      (some condition) = .ok (i.table?.any p))
    (hout : ∀ n i, Expr.evalAll run (s.within (Table.seen n (Catalog.schemaRow i))) outputs =
      .ok (g i)) (hg : ∀ t, g (.table t) = f t) :
    (Stage.select [joined] (some condition) none outputs false).run run s cs =
      .ok (.all ((s.catalog.lastingTables.filter p).map f)) := by
  let chosen := s.catalog.lastingItems.zipIdx.filter fun i => i.1.table?.any p
  have hkeep : keep (fun row => Expr.isTrue run (s.within row) (some condition))
      (catalogRows s.catalog) = .ok (chosen.map seenItem) :=
    keep_map fun i _ => hmet _ _
  have houtputs : (chosen.map seenItem).mapM
      (fun row => Expr.evalAll run (s.within row) outputs) = .ok (chosen.map fun i => g i.1) := by
    rw [List.mapM_map]
    exact mapM_ok fun i _ => hout _ _
  have hitems : (chosen.map fun i => g i.1) = (s.catalog.lastingTables.filter p).map f := by
    rw [Catalog.lastingTables, ← Catalog.filter_tables p hg]
    conv_rhs => rw [← List.zipIdx_map_fst 0 s.catalog.lastingItems]
    rw [List.filter_map, List.map_map]
    rfl
  rw [Stage.run, joinAll_catalog]
  simp only [bind, Except.bind, Found.all, hkeep, houtputs, hitems]
  rfl

def namesAscend (t u : Table) : Bool :=
  compareBytes (Text.Utf8.encode t.name) (Text.Utf8.encode u.name) ≠ .gt

def listed (c : Catalog) : List Table := (c.lastingTables.filter isListed).mergeSort namesAscend

def listedRow (t : Table) : Row := [.text t.name, .text "table", .text t.sql]

def sortedRow (t : Table) : Row := listedRow t ++ [.text t.name]

theorem compareBy_sorted (t u : Table) :
    compareBy [⟨3, .binary, false, true⟩] (sortedRow t) (sortedRow u) =
      compareBytes (Text.Utf8.encode t.name) (Text.Utf8.encode u.name) := by
  have hcolumn : SortColumn.compare ⟨3, .binary, false, true⟩ (sortedRow t) (sortedRow u) =
      compareBytes (Text.Utf8.encode t.name) (Text.Utf8.encode u.name) := rfl
  rw [compareBy, hcolumn]
  cases compareBytes (Text.Utf8.encode t.name) (Text.Utf8.encode u.name) <;> rfl

theorem sorted_tables (ts : List Table) :
    sorted [⟨3, .binary, false, true⟩] (ts.map sortedRow) =
      (ts.mergeSort namesAscend).map sortedRow := by
  rw [sorted, if_neg (by simp)]
  refine (List.map_mergeSort fun t _ u _ => ?_).symm
  rw [compareBy_sorted]
  rfl

theorem run_listingPlan : listingPlan.run s = .ok (.all ((listed s.catalog).map listedRow)) := by
  have hstage : (Stage.select [joined] (some listedFormula) none
      [.place ⟨0, 1⟩, .place ⟨0, 0⟩, .place ⟨0, 4⟩, .place ⟨0, 1⟩] false).run innerRun s
        [.binary, .binary, .binary] =
        .ok (.all ((s.catalog.lastingTables.filter isListed).map sortedRow)) := by
    refine run_select (g := fun i => [.text i.name, .text (kindWord i),
      ((Catalog.schemaRow i)[4]?).getD .null, .text i.name]) _ isTrue_listed (fun n i => ?_)
      fun t => rfl
    cases i <;> rfl
  have hshown : ((listed s.catalog).map sortedRow).map (fun row => row.take 3) =
      (listed s.catalog).map listedRow := by
    rw [List.map_map]
    rfl
  change PlanOf.run innerRun s _ = _
  rw [PlanOf.run, hstage]
  simp only [bind, Except.bind, List.foldlM_nil, pure, Except.pure, limitValue, Found.complete,
    Found.all, Bool.false_eq_true, if_false, sorted_tables, cutTo, Option.getD_none,
    Int.toNat_zero, List.drop_zero, List.isEmpty_cons]
  rw [← hshown]
  rfl

theorem run_presencePlan {name : String} (h : s.parameters = [.text name]) :
    presencePlan.run s =
      .ok (.all ((s.catalog.lastingTables.filter fun t => t.name = name).map fun t =>
        [.text t.name])) := by
  have hout (n : Int64) (i : Item) :
      Expr.evalAll innerRun (s.within (Table.seen n (Catalog.schemaRow i))) [.place ⟨0, 1⟩] =
        .ok [.text i.name] := by
    simp only [Expr.evalAll, Expr.eval, place_name, bind, Except.bind]
  refine run_stage (run_select _ (isTrue_named h) hout fun t => rfl) fun row hrow => ?_
  obtain ⟨t, -, rfl⟩ := List.mem_map.1 hrow
  exact Nat.le_refl 1

/-- Tables are listed with their kind and with the text that made them. -/
theorem run_listing (c : Connection) (patience : Nat) :
    c.run patience [] (.query listingQuery) = (c, .ok ((listed c.catalog).map listedRow)) :=
  Connection.run_query (resolve_listing c.catalog) run_listingPlan

/-- The tables of just a name are found. -/
theorem run_presence (c : Connection) (patience : Nat) (name : String) :
    c.run patience [.text name] (.query presenceQuery) =
      (c, .ok ((c.catalog.lastingTables.filter fun t => t.name = name).map fun t =>
        [.text t.name])) :=
  Connection.run_query (resolve_presence c.catalog) (run_presencePlan rfl)

end CatalogQueries
end Tabular.Sql
