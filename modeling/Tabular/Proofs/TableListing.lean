import Tabular.Proofs.BoundRuns
import Tabular.Proofs.CatalogQueries
import Tabular.Proofs.RequestStages

/-!
# Listing tables

The listing leaves out every table whose name goes on after `sqlite`, whatever comes next, while
a table that is asked for by its name is always found. So the two agree as long as internal
tables are the only ones with such names.
-/

set_option autoImplicit false

namespace Tabular

open Sql Sql.CatalogQueries

namespace Sql

def isLikeInternal (name : String) : Bool :=
  "sqlite".toList.isPrefixOf (foldName name) && "sqlite".length < name.length

/-- A pattern without escapes, by its first character. -/
theorem like_cons (p : Char) (ps s : List Char) :
    Pattern.like none (p :: ps) s =
      if p = '%' then (Pattern.suffixes s).any fun t => Pattern.like none ps t
      else
        match s with
        | [] => false
        | c :: cs =>
          (p = '_' || Pattern.foldCase p = Pattern.foldCase c) && Pattern.like none ps cs := by
  rw [Pattern.like, Pattern.likeFrom.eq_def]
  exact if_neg (Option.some_ne_none p).symm

/-- Letters of a pattern stand for themselves, their case aside. -/
theorem like_letters {letters : List Char} (h : ∀ p ∈ letters, p ≠ '%' ∧ p ≠ '_')
    (rest s : List Char) :
    Pattern.like none (letters ++ rest) s = true ↔ ∃ a b, s = a ++ b ∧
      a.map Char.toLower = letters.map Char.toLower ∧ Pattern.like none rest b = true := by
  induction letters generalizing s with
  | nil =>
    constructor
    · exact fun hs => ⟨[], s, rfl, rfl, hs⟩
    · rintro ⟨a, b, rfl, ha, hb⟩
      rwa [List.map_eq_nil_iff.1 ha]
  | cons p letters ih =>
    obtain ⟨⟨hany, hone⟩, h⟩ := List.forall_mem_cons.1 h
    rw [List.cons_append, like_cons, if_neg hany]
    cases s with
    | nil =>
      refine ⟨fun hs => absurd hs Bool.false_ne_true, ?_⟩
      rintro ⟨a, b, hs, ha, -⟩
      rw [(List.append_eq_nil_iff.1 hs.symm).1] at ha
      cases ha
    | cons c s =>
      simp only [hone, decide_false, Bool.false_or, Bool.and_eq_true, ih h, Pattern.foldCase]
      constructor
      · rintro ⟨hc, a, b, rfl, ha, hb⟩
        exact ⟨c :: a, b, rfl, by rw [List.map_cons, List.map_cons, of_decide_eq_true hc, ha], hb⟩
      · rintro ⟨_ | ⟨d, a⟩, b, hs, ha, hb⟩
        · cases ha
        · obtain ⟨rfl, rfl⟩ := List.cons.inj hs
          obtain ⟨hc, ha⟩ := List.cons.inj ha
          exact ⟨decide_eq_true hc.symm, a, b, rfl, ha, hb⟩

theorem like_any (s : List Char) : Pattern.like none ['%'] s = true := by
  have hend : [] ∈ Pattern.suffixes s := by
    induction s with
    | nil => exact List.mem_singleton_self _
    | cons c s ih => exact .tail _ ih
  rw [like_cons, if_pos rfl]
  exact List.any_eq_true.2 ⟨[], hend, rfl⟩

/-- The pattern for internal names takes in any character after their first six. -/
theorem like_internal (name : String) :
    Pattern.like none internalPattern.toList name.toList = isLikeInternal name := by
  have hpattern : internalPattern.toList = "sqlite".toList ++ ['_', '%'] := by decide
  have hletters : ∀ p ∈ "sqlite".toList, p ≠ '%' ∧ p ≠ '_' := by simp
  have hlower : "sqlite".toList.map Char.toLower = "sqlite".toList := by decide
  rw [Bool.eq_iff_iff, hpattern, like_letters hletters, hlower, isLikeInternal, Bool.and_eq_true,
    List.isPrefixOf_iff_prefix, decide_eq_true_eq, foldName]
  simp only [← String.length_toList]
  constructor
  · rintro ⟨a, _ | ⟨c, b⟩, hs, ha, hb⟩
    · cases hb
    · have hsame : a.length = "sqlite".toList.length := by rw [← ha, List.length_map]
      rw [hs, List.map_append, ha]
      refine ⟨List.prefix_append _ _, ?_⟩
      rw [List.length_append, List.length_cons, hsame]
      omega
  · rintro ⟨⟨rest, hname⟩, hlong⟩
    obtain ⟨a, _ | ⟨c, b⟩, hs, ha, hb⟩ := List.map_eq_append_iff.1 hname.symm
    · rw [hs, List.append_nil, ← ha, List.length_map] at hlong
      exact absurd hlong (Nat.lt_irrefl _)
    · exact ⟨a, c :: b, hs, ha, like_any b⟩

theorem isListed_eq (t : Table) : isListed t = !isLikeInternal t.name := by
  rw [isListed, like_internal]

/-- Internal names are among them. -/
theorem likeInternal_of_reserved {name : String} (h : isReserved name = true) :
    isLikeInternal name = true := by
  obtain ⟨rest, hrest⟩ := List.isPrefixOf_iff_prefix.1 h
  have hlength : name.length = "sqlite_".length + rest.length := by
    rw [← String.length_toList, ← List.length_map Char.toLower, ← foldName, ← hrest,
      List.length_append]
    rfl
  have hlong : "sqlite".length < name.length := by
    rw [hlength, show "sqlite_".length = "sqlite".length + 1 from rfl]
    omega
  rw [isLikeInternal, Bool.and_eq_true, List.isPrefixOf_iff_prefix, decide_eq_true_eq, ← hrest]
  exact ⟨⟨'_' :: rest, rfl⟩, hlong⟩

end Sql

namespace Sql.Question

variable {q : Question} {s : Store}

/-- Where the store cannot be read, a question is refused when it is compiled. -/
theorem run_damaged (hs : s.Reachable) (h : s.connection.damaged = true) {statement : Statement}
    (hq : statement.sql = q.sql) :
    (s.run statement).1 = .error (.prepare (.sql .notADatabase)) := by
  rw [Question.run_eq (known_of_reachable hs) hq, reply, compiled_damaged h]
  rfl

/-- Else it runs as its query. -/
theorem run_intact (hs : s.Reachable) (h : s.connection.damaged = false) (statement : Statement)
    (bound : List Value) (hq : statement.sql = q.sql) (hp : q.parameters = ⟨bound.length, []⟩)
    (hv : statement.values.length = statement.types.length)
    (hb : Store.Converted statement.typed bound) (hcolumns : q.columns ≠ []) {rows : List Row}
    (hrun : s.connection.run s.patience bound (.query q.query) = (s.connection, .ok rows)) :
    (s.run statement).1 = .ok (.ofRows (rows.map (NamedRow.ofValues q.columns))) := by
  have hprepared : Store.prepared s.connection (s.known statement.sql) statement.sql =
      (⟨[q.prepared], Connection.ended⟩, none) := by
    rw [hq, prepared_eq s.connection (known_of_reachable hs), compiled_intact h]
  have hsome : q.columns.isEmpty = false := by simpa using hcolumns
  rw [Store.run_compiled statement hprepared hp hv hb]
  simp only [prepared, hrun, Store.ofOutcome, Store.answer, List.any_cons, hsome, Bool.not_false,
    Bool.true_or, if_true]

end Sql.Question

namespace Database

variable {d : Database}

def listingRow (t : Table) : NamedRow :=
  [("name", .text t.name), ("type", .text "table"), ("sql", .text t.sql)]

def notReadable : AccessError := .prepare (.sql .notADatabase)

def presenceStatement (name : String) : Statement :=
  (Statement.ofText presenceText).bind name .string

theorem tables_result (d : Database) : (tables d).1 = (d.store.run (.ofText listingText)).1 := by
  rw [tables, (Operation.tracked_eq _ d).1]
  rfl

theorem hasTable_result (name : String) (d : Database) :
    (hasTable name d).1 = (d.store.run (presenceStatement name)).1.map fun a =>
      decide (0 < a.rowCount) := by
  rw [hasTable, (Operation.tracked_eq _ d).1, Operation.bind_eq, presenceStatement, presenceText]
  simp only [execute]
  generalize d.store.run _ = x
  obtain ⟨_ | a, s⟩ := x <;> rfl

theorem tables_intact (h : Reachable d) (hi : d.store.connection.damaged = false) :
    (tables d).1 = .ok (.ofRows ((listed d.store.connection.catalog).map listingRow)) := by
  have hrun := Question.run_intact (q := listing) h.store hi (.ofText listingText) [] rfl rfl rfl
    .nil (List.cons_ne_nil _ _) (run_listing _ _)
  rw [tables_result, hrun, List.map_map]
  rfl

theorem hasTable_intact (h : Reachable d) (hi : d.store.connection.damaged = false)
    (name : String) :
    (hasTable name d).1 =
      .ok (decide (∃ t ∈ d.store.connection.catalog.lastingTables, t.name = name)) := by
  have hrun := Question.run_intact (q := presence) h.store hi (presenceStatement name)
    [.text name] rfl rfl rfl (.cons rfl .nil) (List.cons_ne_nil _ _) (run_presence _ _ _)
  rw [hasTable_result, hrun]
  refine congrArg Except.ok (decide_eq_decide.2 ?_)
  rw [Answer.rowCount, Answer.ofRows, List.length_map, List.length_map,
    List.length_pos_iff_exists_mem]
  simp only [List.mem_filter, decide_eq_true_eq]

theorem tables_damaged (h : Reachable d) (hi : d.store.connection.damaged = true) :
    (tables d).1 = .error notReadable := by
  rw [tables_result]
  exact Question.run_damaged (q := listing) h.store hi rfl

theorem hasTable_damaged (h : Reachable d) (hi : d.store.connection.damaged = true)
    (name : String) :
    (hasTable name d).1 = .error notReadable := by
  rw [hasTable_result, Question.run_damaged (q := presence) h.store hi rfl]
  rfl

theorem listed_perm (c : Catalog) :
    (listed c).Perm (c.lastingTables.filter fun t => !isLikeInternal t.name) := by
  have hsame : isListed = fun t => !isLikeInternal t.name := funext isListed_eq
  rw [← hsame]
  exact List.mergeSort_perm _ _

theorem mem_listed {c : Catalog} {t : Table} :
    t ∈ listed c ↔ t ∈ c.lastingTables ∧ isLikeInternal t.name = false := by
  rw [(listed_perm c).mem_iff, List.mem_filter, Bool.not_eq_true']

theorem namesAscend_iff {t u : Table} :
    namesAscend t u = true ↔ Text.Utf8.encode t.name ≤ Text.Utf8.encode u.name := by
  rw [namesAscend, decide_eq_true_eq, compareBytes_ne_gt]

theorem listed_ascending (c : Catalog) :
    (listed c).Pairwise fun t u => Text.Utf8.encode t.name ≤ Text.Utf8.encode u.name := by
  have htrans (t u v : Table) (htu : namesAscend t u) (huv : namesAscend u v) : namesAscend t v :=
    namesAscend_iff.2 (List.le_trans (namesAscend_iff.1 htu) (namesAscend_iff.1 huv))
  have htotal (t u : Table) : namesAscend t u || namesAscend u t := by
    rw [Bool.or_eq_true, namesAscend_iff, namesAscend_iff]
    exact List.le_total _ _
  exact (List.pairwise_mergeSort htrans htotal _).imp namesAscend_iff.1

/-- The listing has just the tables with names that are not reserved, and so agrees with asking for
one by such a name, if and only if none of them goes on after `sqlite` otherwise. -/
theorem listed_unreserved_iff (c : Catalog) :
    ((listed c).Perm (c.lastingTables.filter fun t => !Sql.isReserved t.name) ∧
        ∀ name, Sql.isReserved name = false →
          ((∃ t ∈ listed c, t.name = name) ↔ ∃ t ∈ c.lastingTables, t.name = name)) ↔
      ∀ t ∈ c.lastingTables, isLikeInternal t.name → Sql.isReserved t.name := by
  constructor
  · rintro ⟨-, hagree⟩ t ht hlike
    by_contra hreserved
    obtain ⟨u, hu, hname⟩ := (hagree t.name (Bool.eq_false_iff.2 hreserved)).2 ⟨t, ht, rfl⟩
    rw [← hname, (mem_listed.1 hu).2] at hlike
    cases hlike
  · intro hall
    have hsame : c.lastingTables.filter (fun t => !Sql.isReserved t.name) =
        c.lastingTables.filter fun t => !isLikeInternal t.name := by
      refine List.filter_congr fun t ht => congrArg Bool.not (Bool.eq_iff_iff.2 ?_)
      exact ⟨likeInternal_of_reserved, hall t ht⟩
    refine ⟨hsame ▸ listed_perm c, fun name hname => ⟨?_, ?_⟩⟩
    · rintro ⟨t, ht, rfl⟩
      exact ⟨t, (mem_listed.1 ht).1, rfl⟩
    · rintro ⟨t, ht, rfl⟩
      refine ⟨t, mem_listed.2 ⟨ht, Bool.eq_false_iff.2 fun hlike => ?_⟩, rfl⟩
      rw [hall t ht hlike] at hname
      cases hname

/-- Where the file is a database, the listing has one row for each lasting table whose name does
not go on after `sqlite`, in the order of the names and with no internal table among them, and a
lasting table is found by its name whatever that is. So the listing has one row for each table
with a name that is not reserved, and agrees with asking for such a name, if and only if none of
these tables has a name that goes on after `sqlite`. Any other file refuses both questions. -/
theorem listing_agrees_iff {d : Database} (h : Reachable d) :
    (d.store.connection.damaged = true ∧ (tables d).1 = .error notReadable ∧
      ∀ name, (hasTable name d).1 = .error notReadable) ∨
    (d.store.connection.damaged = false ∧ ∃ ts : List Table,
      (tables d).1 = .ok (.ofRows (ts.map listingRow)) ∧
      ts.Pairwise (fun t u => Text.Utf8.encode t.name ≤ Text.Utf8.encode u.name) ∧
      ts.Perm (d.store.connection.catalog.lastingTables.filter fun t => !isLikeInternal t.name) ∧
      (∀ t ∈ ts, Sql.isReserved t.name = false) ∧
      (∀ name, (hasTable name d).1 =
        .ok (decide (∃ t ∈ d.store.connection.catalog.lastingTables, t.name = name))) ∧
      ((ts.Perm (d.store.connection.catalog.lastingTables.filter fun t => !Sql.isReserved t.name) ∧
          ∀ name, Sql.isReserved name = false →
            ((∃ t ∈ ts, t.name = name) ↔ (hasTable name d).1 = .ok true)) ↔
        ∀ t ∈ d.store.connection.catalog.lastingTables,
          isLikeInternal t.name → Sql.isReserved t.name)) := by
  cases hi : d.store.connection.damaged with
  | true => exact .inl ⟨rfl, tables_damaged h hi, hasTable_damaged h hi⟩
  | false =>
    have hfound (name : String) : (hasTable name d).1 = .ok true ↔
        ∃ t ∈ d.store.connection.catalog.lastingTables, t.name = name := by
      rw [hasTable_intact h hi, Except.ok.injEq, decide_eq_true_eq]
    refine .inr ⟨rfl, listed d.store.connection.catalog, tables_intact h hi, listed_ascending _,
      listed_perm _, fun t ht => ?_, hasTable_intact h hi, ?_⟩
    · refine Bool.eq_false_iff.2 fun hreserved => ?_
      have hlisted := (mem_listed.1 ht).2
      rw [likeInternal_of_reserved hreserved] at hlisted
      cases hlisted
    · simp only [hfound]
      exact listed_unreserved_iff _

def twoTables : Database :=
  ((Step.query "CREATE TABLE audit(a)").run
    ((Step.query "CREATE TABLE users(id INTEGER PRIMARY KEY)").run inMemory).2).2

theorem listing_agrees_iff_twoTables :
    ∃ ts : List Table, (tables twoTables).1 = .ok (.ofRows (ts.map listingRow)) ∧ ts.length = 2 ∧
      ∀ name, Sql.isReserved name = false →
        ((∃ t ∈ ts, t.name = name) ↔ (hasTable name twoTables).1 = .ok true) := by
  have hreachable : Reachable twoTables := .used (.used (.opened (connect_memory ⟨"", [], []⟩)) _) _
  obtain ⟨hintact, hnone, hcount⟩ : twoTables.store.connection.damaged = false ∧
      (∀ t ∈ twoTables.store.connection.catalog.lastingTables,
        isLikeInternal t.name → Sql.isReserved t.name) ∧
      (twoTables.store.connection.catalog.lastingTables.filter fun t =>
        !isLikeInternal t.name).length = 2 := by decide +kernel
  rcases listing_agrees_iff hreachable with
    ⟨hdamaged, -⟩ | ⟨-, ts, hlisting, -, hperm, -, -, hagree⟩
  · exact absurd (hintact.symm.trans hdamaged) Bool.false_ne_true
  · exact ⟨ts, hlisting, hperm.length_eq.trans hcount, (hagree.2 hnone).2⟩

/-- A table that is found by its name, which anyone may give it, and not listed. -/
theorem lookalike_left_out :
    let d := ((Step.query "CREATE TABLE sqlitedata(a)").run inMemory).2
    Sql.isReserved "sqlitedata" = false ∧ Statement.checkTable "sqlitedata" = .ok () ∧
      (hasTable "sqlitedata" d).1.toOption = some true ∧
      (tables d).1.toOption.map Answer.rowCount = some 0 := by
  intro d
  have hreachable : Reachable d := .used (.opened (connect_memory ⟨"", [], []⟩)) _
  obtain ⟨hintact, hthere, hnone⟩ : d.store.connection.damaged = false ∧
      (∃ t ∈ d.store.connection.catalog.lastingTables, t.name = "sqlitedata") ∧
      (listed d.store.connection.catalog).length = 0 := by decide +kernel
  refine ⟨by decide +kernel, Statement.checkTable_ok.2 (by decide +kernel), ?_, ?_⟩
  · rw [hasTable_intact hreachable hintact, decide_eq_true hthere]
    rfl
  · rw [tables_intact hreachable hintact, ← hnone, ← List.length_map listingRow]
    rfl

end Database
end Tabular
