import Tabular.Proofs.RowSelection

/-!
# The width of rows

A row that a statement finds or returns has a value for each of the result columns that the
statement is compiled with, as long as the columns of the tables are the same when it runs.
-/

set_option autoImplicit false

namespace Tabular

/-- A result of many computations is that of one of them. -/
theorem mem_mapM {ε α β : Type} {f : α → Except ε β} {as : List α} {bs : List β}
    (h : as.mapM f = .ok bs) {b : β} (hb : b ∈ bs) : ∃ a ∈ as, f a = .ok b := by
  have hall := mapM_eq_ok.1 h
  clear h
  induction hall with
  | nil => cases hb
  | cons first _ ih =>
    rcases List.mem_cons.1 hb with rfl | hb
    · exact ⟨_, List.mem_cons_self, first⟩
    · obtain ⟨a, ha, hfa⟩ := ih hb
      exact ⟨a, .tail _ ha, hfa⟩

namespace Sql

variable {P : Type} {run : P → Scene → Except Fault Found} {s : Scene} {n : Nat}

def Wide (n : Nat) (rows : List Row) : Prop := ∀ row ∈ rows, n ≤ row.length

theorem Wide.subset {rows others : List Row} (h : Wide n rows) (ho : others ⊆ rows) :
    Wide n others := fun row hrow => h row (ho hrow)

theorem distinctBy_subset (same : Row → Row → Bool) (rows : List Row) :
    distinctBy same rows ⊆ rows := by
  induction rows with
  | nil => exact List.Subset.refl []
  | cons row rows ih =>
    have hrest : ((distinctBy same rows).filter fun other => !same row other) ⊆ rows :=
      List.Subset.trans (List.filter_subset_self _) ih
    exact List.cons_subset_cons row hrest

theorem wide_evalAll {α : Type} {as : List α} {scene : α → Scene} {es : α → List (Expr P)}
    {rows : List Row} (h : (as.mapM fun a => Expr.evalAll run (scene a) (es a)) = .ok rows)
    (hn : ∀ a ∈ as, n ≤ (es a).length) : Wide n rows := by
  intro row hrow
  obtain ⟨a, ha, hrow⟩ := mem_mapM h hrow
  rw [length_evalAll hrow]
  exact hn a ha

def Stage.Wide (n : Nat) : Stage P → Prop
  | .select _ _ _ outputs _ => n ≤ outputs.length
  | .values rows => ∀ row ∈ rows, n ≤ row.length

theorem Stage.run_wide {stage : Stage P} (hstage : stage.Wide n) {cs : List Collation}
    {found : Found} (h : stage.run run s cs = .ok found) : Sql.Wide n found.rows := by
  cases stage with
  | values rows =>
    rw [Stage.run] at h
    obtain ⟨out, hout, h⟩ := bind_eq_ok.1 h
    obtain rfl := Except.ok.inj h
    exact wide_evalAll hout hstage
  | select sources condition grouping outputs distinct =>
    rw [Stage.run] at h
    obtain ⟨joined, -, h⟩ := bind_eq_ok.1 h
    obtain ⟨met, -, h⟩ := bind_eq_ok.1 h
    have hlast : ∀ rows : List Row, ∀ cut, (do
        let rows ← rows.mapM fun row => Expr.evalAll run (s.within row) outputs
        Except.ok (⟨if distinct then distinctBy (sameRow cs) rows else rows, cut⟩ : Found)) =
          .ok found → Sql.Wide n found.rows := by
      intro rows cut hrows
      obtain ⟨out, hout, hfound⟩ := bind_eq_ok.1 hrows
      obtain rfl := Except.ok.inj hfound
      have hwide := wide_evalAll hout fun _ _ => hstage
      by_cases hd : distinct
      · simp only [hd, if_true]
        exact hwide.subset (distinctBy_subset _ _)
      · simp only [hd, Bool.false_eq_true, if_false]
        exact hwide
    cases grouping with
    | none => exact hlast met joined.cut h
    | some g =>
      obtain ⟨_, -, h⟩ := bind_eq_ok.1 h
      obtain ⟨rows, -, h⟩ := bind_eq_ok.1 h
      exact hlast rows false h

theorem complete_rows {found : Found} {rows : List Row} (h : found.complete = .ok rows) :
    rows = found.rows := by
  rw [Found.complete] at h
  split at h
  · cases h
  · exact (Except.ok.inj h).symm

theorem wide_merged {cs : List Collation} {left right rows : List Row} (hl : Wide n left)
    (hr : Wide n right) (h : rows ⊆ left ++ right) :
    Wide n (sortedRows cs (distinctBy (sameRow cs) rows)) := by
  intro row hrow
  have hmem : row ∈ rows := distinctBy_subset _ _ (List.mem_mergeSort.1 hrow)
  rcases List.mem_append.1 (h hmem) with hmem | hmem
  · exact hl row hmem
  · exact hr row hmem

theorem Compound.apply_wide {op : Compound} {cs : List Collation} {a b found : Found}
    (ha : Wide n a.rows) (hb : Wide n b.rows) (h : op.apply cs a b = .ok found) :
    Wide n found.rows := by
  -- but for the plain union both sides are complete
  have hsides {f : List Row → List Row → List Row}
      (hf : ∀ left right, f left right ⊆ left ++ right)
      (h : (do
        let left ← a.complete
        let right ← b.complete
        Except.ok (Found.all (sortedRows cs (distinctBy (sameRow cs) (f left right))))) =
          .ok found) : Wide n found.rows := by
    obtain ⟨left, hleft, h⟩ := bind_eq_ok.1 h
    obtain ⟨right, hright, h⟩ := bind_eq_ok.1 h
    obtain rfl := complete_rows hleft
    obtain rfl := complete_rows hright
    obtain rfl := Except.ok.inj h
    exact wide_merged ha hb (hf _ _)
  have hfilter {p : Row → Bool} (left right : List Row) : left.filter p ⊆ left ++ right :=
    List.Subset.trans (List.filter_subset_self _) (List.subset_append_left _ _)
  cases op with
  | unionAll =>
    obtain rfl := Except.ok.inj h
    intro row hrow
    rcases List.mem_append.1 hrow with hrow | hrow
    · exact ha row hrow
    · split at hrow
      · cases hrow
      · exact hb row hrow
  | union => exact hsides (fun _ _ => List.Subset.refl _) h
  | intersect => exact hsides (fun _ _ => hfilter _ _) h
  | except => exact hsides (fun _ _ => hfilter _ _) h

theorem cutTo_subset (limit offset : Option Int) (f : Found) :
    (cutTo limit offset f).rows ⊆ f.rows := by
  have hdrop : f.rows.drop (offset.getD 0).toNat ⊆ f.rows := List.drop_subset _ _
  cases limit with
  | none => exact hdrop
  | some n =>
    unfold cutTo
    dsimp only
    split
    · exact hdrop
    · exact List.Subset.trans (List.take_subset _ _) hdrop

theorem sorted_subset (order : List SortColumn) (rows : List Row) : sorted order rows ⊆ rows := by
  rw [sorted]
  split
  · exact List.Subset.refl rows
  · intro row hrow
    exact List.mem_mergeSort.1 hrow

theorem foldlM_wide {cs : List Collation} {stages : List (Compound × Stage P)}
    (hstages : ∀ r ∈ stages, r.2.Wide n) {first found : Found} (hfirst : Wide n first.rows)
    (h : stages.foldlM (fun found (op, stage) => do
      let next ← Stage.run run s cs stage
      op.apply cs found next) first = .ok found) : Wide n found.rows := by
  induction stages generalizing first with
  | nil =>
    obtain rfl := Except.ok.inj h
    exact hfirst
  | cons stage stages ih =>
    obtain ⟨hstage, hrest⟩ := List.forall_mem_cons.1 hstages
    rw [List.foldlM_cons] at h
    obtain ⟨joined, hjoined, h⟩ := bind_eq_ok.1 h
    obtain ⟨next, hnext, happly⟩ := bind_eq_ok.1 hjoined
    have hwide := Compound.apply_wide hfirst (Stage.run_wide hstage hnext) happly
    exact ih hrest hwide h

/-- A query whose selections are wide enough has rows of its width. -/
theorem PlanOf.run_width {q : PlanOf P} (hfirst : q.first.Wide q.width)
    (hrest : ∀ r ∈ q.rest, r.2.Wide q.width) {found : Found} (h : q.run run s = .ok found) :
    ∀ row ∈ found.rows, row.length = q.width := by
  have hwide : ∃ rows, Wide q.width rows ∧ found.rows = rows.map fun row => row.take q.width := by
    rw [PlanOf.run] at h
    obtain ⟨first, hrun, h⟩ := bind_eq_ok.1 h
    obtain ⟨joined, hjoined, h⟩ := bind_eq_ok.1 h
    obtain ⟨limit, -, h⟩ := bind_eq_ok.1 h
    obtain ⟨offset, -, h⟩ := bind_eq_ok.1 h
    have hw := foldlM_wide hrest (Stage.run_wide hfirst hrun) hjoined
    split at h
    · obtain ⟨f, hf, h⟩ := bind_eq_ok.1 h
      obtain rfl := Except.ok.inj hf
      obtain rfl := Except.ok.inj h
      exact ⟨_, hw.subset (cutTo_subset _ _ _), rfl⟩
    · obtain ⟨rows, hrows, h⟩ := bind_eq_ok.1 h
      obtain ⟨f, hf, h⟩ := bind_eq_ok.1 h
      obtain rfl := complete_rows hrows
      obtain rfl := Except.ok.inj hf
      obtain rfl := Except.ok.inj h
      exact ⟨_, (hw.subset (sorted_subset _ _)).subset (cutTo_subset _ _ _), rfl⟩
  obtain ⟨rows, hw, heq⟩ := hwide
  intro row hrow
  rw [heq] at hrow
  obtain ⟨full, hfull, rfl⟩ := List.mem_map.1 hrow
  rw [List.length_take, Nat.min_eq_left (hw full hfull)]

theorem resolveValues_wide {sub : Sub} {site : Site} {rows : List (List Words)}
    {selected : Selected} (h : resolveValues sub site rows = .ok selected) :
    selected.stage.Wide selected.outputs.length := by
  rw [resolveValues] at h
  obtain ⟨typed, -, h⟩ := bind_eq_ok.1 h
  dsimp only at h
  split at h
  · cases h
  · next heven =>
    obtain rfl := Except.ok.inj h
    intro row hrow
    obtain ⟨row, hmem, rfl⟩ := List.mem_map.1 hrow
    simp only [List.any_eq_true, decide_eq_true_eq, not_exists, not_and, not_not] at heven
    simp [heven row hmem]

theorem resolveCore_wide {sub : Sub} {site : Site} {order : List (OrderTerm Query)}
    {core : Core Query} {selected : Selected}
    (h : resolveCore sub site order core = .ok selected) :
    selected.stage.Wide selected.outputs.length := by
  cases core with
  | values rows => exact resolveValues_wide h
  | select distinct columns sources condition group having =>
    rw [resolveCore] at h
    obtain ⟨origins, -, h⟩ := bind_eq_ok.1 h
    obtain ⟨sourced, -, h⟩ := bind_eq_ok.1 h
    obtain ⟨⟨outputs, gathered⟩, -, h⟩ := bind_eq_ok.1 h
    obtain ⟨⟨having, gathered⟩, -, h⟩ := bind_eq_ok.1 h
    obtain ⟨⟨condition, _⟩, -, h⟩ := bind_eq_ok.1 h
    obtain ⟨⟨⟨order, hidden⟩, gathered⟩, -, h⟩ := bind_eq_ok.1 h
    obtain ⟨keys, -, h⟩ := bind_eq_ok.1 h
    split at h
    · cases h
    · obtain rfl := Except.ok.inj h
      simp [Stage.Wide]

theorem resolveRest_wide {sub : Sub} {site : Site} {width : Nat}
    {cores : List (Compound × Core Query)} {rest : List (Compound × Selected)}
    (h : resolveRest sub site width cores = .ok rest) : ∀ r ∈ rest, r.2.stage.Wide width := by
  induction cores generalizing rest with
  | nil =>
    obtain rfl := Except.ok.inj h
    nofun
  | cons core cores ih =>
    rw [resolveRest] at h
    obtain ⟨selected, hselected, h⟩ := bind_eq_ok.1 h
    split at h
    · cases h
    · next hwidth =>
      obtain ⟨others, hothers, h⟩ := bind_eq_ok.1 h
      obtain rfl := Except.ok.inj h
      have hwide := resolveCore_wide hselected
      rw [Decidable.not_not.1 hwidth] at hwide
      exact List.forall_mem_cons.2 ⟨hwide, ih hothers⟩

/-- The rows of a query have a value for each of its columns. -/
theorem resolveQuery_width {site : Site} {q : Query} {r : Resolved} {found : Found}
    (h : resolveQuery site q = .ok r) (hrun : r.plan.run s = .ok found) :
    ∀ row ∈ found.rows, row.length = r.headings.length := by
  obtain ⟨body⟩ := q
  have hbody : resolveBody (resolveWithin (Plan.nesting - 1)) site body = .ok r := h
  rw [resolveBody] at hbody
  obtain ⟨⟨limit, _⟩, -, hbody⟩ := bind_eq_ok.1 hbody
  obtain ⟨⟨offset, _⟩, -, hbody⟩ := bind_eq_ok.1 hbody
  obtain ⟨first, hfirst, hbody⟩ := bind_eq_ok.1 hbody
  obtain ⟨rest, hrest, hbody⟩ := bind_eq_ok.1 hbody
  obtain ⟨order, rfl⟩ : ∃ order, r = ⟨.query ⟨first.outputs.length,
      first.outputs.map fun o => o.typed.collationOrBinary, first.stage,
      rest.map fun r => (r.1, r.2.stage), order, limit, offset⟩,
      first.outputs.map Output.heading⟩ := by
    dsimp only at hbody
    split at hbody
    · exact ⟨first.order, (Except.ok.inj hbody).symm⟩
    · obtain ⟨order, -, hbody⟩ := bind_eq_ok.1 hbody
      exact ⟨order, (Except.ok.inj hbody).symm⟩
  have hstages : ∀ r ∈ rest.map (fun r => (r.1, r.2.stage)), r.2.Wide first.outputs.length := by
    intro r hr
    obtain ⟨r, hmem, rfl⟩ := List.mem_map.1 hr
    exact resolveRest_wide hrest r hmem
  have hplan : PlanOf.run (Plan.runWithin (Plan.nesting - 1)) s _ = .ok found := hrun
  rw [List.length_map]
  exact PlanOf.run_width (resolveCore_wide hfirst) hstages hplan

theorem length_returned {outputs : List Output} {id : Int64} {row values : Row}
    (h : returned s outputs id row = .ok values) : values.length = outputs.length := by
  rw [returned] at h
  cases hvalues : outputs.mapM fun o => s.value (Table.seen id row) o.typed.expr with
  | error e =>
    rw [hvalues] at h
    cases h
  | ok found =>
    rw [hvalues] at h
    obtain rfl := Except.ok.inj h
    exact (mapM_eq_ok.1 hvalues).length_eq.symm

theorem length_stepThrough {α : Type} {outputs : List Output} {step : Work → α → Attempt Stepped}
    {w : Work} {rows : List Row} (as : List α) (h : ∀ row ∈ rows, row.length = outputs.length) :
    ∀ row ∈ (stepThrough s outputs step w rows as).returned, row.length = outputs.length := by
  have hreverse {rows : List Row} (h : ∀ row ∈ rows, row.length = outputs.length) :
      ∀ row ∈ rows.reverse, row.length = outputs.length :=
    fun row hrow => h row (List.mem_reverse.1 hrow)
  induction as generalizing w rows with
  | nil => exact hreverse h
  | cons a as ih =>
    rw [stepThrough]
    split
    · exact hreverse h
    · exact ih h
    · split
      · exact hreverse h
      · next values hvalues =>
        apply ih
        split
        · exact h
        · exact List.forall_mem_cons.2 ⟨length_returned hvalues, h⟩

variable {c c' : Connection} {rows : List Row} {p : Progress}

theorem length_insertAll {ins : Inserting} {w : Work} (h : insertAll s ins w = .ok p) :
    ∀ row ∈ p.returned, row.length = ins.returning.length := by
  rw [insertAll] at h
  have hsteps : ∀ rows : List Row, stepThrough s ins.returning (insertRow s ins) w [] rows = p →
      ∀ row ∈ p.returned, row.length = ins.returning.length := by
    rintro rows rfl
    exact length_stepThrough rows nofun
  cases hplan : ins.plan with
  | none =>
    rw [hplan] at h
    exact hsteps _ (Except.ok.inj h)
  | some plan =>
    rw [hplan] at h
    obtain ⟨found, -, h⟩ := bind_eq_ok.1 h
    obtain ⟨rows, -, h⟩ := bind_eq_ok.1 h
    exact hsteps rows (Except.ok.inj h)

theorem length_updateAll {u : Updating} {w : Work} (h : updateAll s u w = .ok p) :
    ∀ row ∈ p.returned, row.length = u.returning.length := by
  rw [updateAll] at h
  obtain ⟨found, -, h⟩ := bind_eq_ok.1 h
  obtain ⟨rows, -, h⟩ := bind_eq_ok.1 h
  obtain rfl := Except.ok.inj h
  exact length_stepThrough _ nofun

theorem length_deleteAll {d : Deleting} {w : Work} (h : deleteAll s d w = .ok p) :
    ∀ row ∈ p.returned, row.length = d.returning.length := by
  rw [deleteAll] at h
  obtain ⟨found, -, h⟩ := bind_eq_ok.1 h
  obtain ⟨rows, -, h⟩ := bind_eq_ok.1 h
  obtain rfl := Except.ok.inj h
  exact length_stepThrough _ nofun

namespace Connection

theorem failed_error (c : Connection) (e : Fault) : (c.failed e).2 = .error e := by
  cases e <;> rfl

theorem settled_rows (h : c.settled p = (c', .ok rows)) : rows = p.returned := by
  have hfault := congrArg Prod.snd h
  unfold settled at hfault
  dsimp only at hfault
  split at hfault
  · split at hfault
    · exact (Except.ok.inj hfault).symm
    · cases hfault
  · split at hfault
    · cases hfault
    · cases hfault
    · rw [failed_error] at hfault
      cases hfault

theorem changed_rows {r : Except Fault Progress} (h : c.changed r = (c', .ok rows)) :
    ∃ p, r = .ok p ∧ rows = p.returned := by
  cases r with
  | ok p => exact ⟨p, rfl, settled_rows h⟩
  | error e =>
    have hfault := congrArg Prod.snd h
    rw [changed, failed_error] at hfault
    cases hfault

def Rowless (o : Outcome) : Prop := ∀ rows, o.2 = .ok rows → rows = []

theorem rowless_ok (c : Connection) : Rowless (c, .ok []) := by
  intro rows h
  exact (Except.ok.inj h).symm

theorem rowless_error (c : Connection) (e : Fault) : Rowless (c, .error e) := nofun

theorem rowless_defined (c : Connection) (r : Except Fault Catalog) : Rowless (c.defined r) := by
  cases r with
  | ok catalog => exact rowless_ok _
  | error e =>
    intro rows h
    rw [defined, failed_error] at h
    cases h

theorem rowless_commit (c : Connection) : Rowless c.commit := by
  unfold commit
  split
  · exact rowless_error _ _
  · split
    · exact rowless_error _ _
    · exact rowless_ok _

theorem rowless_begin (c : Connection) : Rowless c.begin := by
  unfold begin
  split
  · exact rowless_error _ _
  · exact rowless_ok _

theorem rowless_rollback (c : Connection) : Rowless c.rollback := by
  unfold rollback
  split
  · exact rowless_ok _
  · exact rowless_error _ _

theorem rowless_release (c : Connection) (name : String) : Rowless (c.release name) := by
  unfold release
  split
  · exact rowless_error _ _
  · split
    · exact rowless_error _ _
    · split
      · exact rowless_commit c
      · exact rowless_ok _

theorem rowless_rollbackTo (c : Connection) (name : String) : Rowless (c.rollbackTo name) := by
  unfold rollbackTo
  split
  · exact rowless_error _ _
  · split
    · exact rowless_error _ _
    · exact rowless_ok _

theorem Rowless.width {o : Outcome} (ho : Rowless o) (h : o = (c', .ok rows)) (n : Nat) :
    ∀ row ∈ rows, row.length = n := by
  rw [ho rows (congrArg Prod.snd h)]
  nofun

theorem changed_width {α : Type} {x : Except Fault α} {f : α → Except Fault Progress}
    {returning : α → List Output} {columns : List String}
    (hc : (x.map fun r => (returning r).map Output.name) = .ok columns)
    (hf : ∀ r p, f r = .ok p → ∀ row ∈ p.returned, row.length = (returning r).length)
    (h : c.changed (x.bind f) = (c', .ok rows)) : ∀ row ∈ rows, row.length = columns.length := by
  obtain ⟨p, hp, rfl⟩ := changed_rows h
  obtain ⟨r, hr, hp⟩ := bind_eq_ok.1 hp
  obtain ⟨r', hr', rfl⟩ := map_eq_ok.1 hc
  obtain rfl := Except.ok.inj (hr'.symm.trans hr)
  rw [List.length_map]
  exact hf r' p hp

theorem query_width {q : Query} {columns : List String}
    (hc : (resolveQuery (Site.ofCatalog c.catalog) q).map
      (fun r => r.headings.map Heading.name) = .ok columns)
    (h : (do
      let r ← resolveQuery (Site.ofCatalog c.catalog) q
      let found ← r.plan.run s
      found.complete : Except Fault (List Row)) = .ok rows) :
    ∀ row ∈ rows, row.length = columns.length := by
  obtain ⟨r, hr, rfl⟩ := map_eq_ok.1 hc
  obtain ⟨r', hr', h⟩ := bind_eq_ok.1 h
  obtain rfl := Except.ok.inj (hr.symm.trans hr')
  obtain ⟨found, hrun, hcomplete⟩ := bind_eq_ok.1 h
  obtain rfl := complete_rows hcomplete
  rw [List.length_map]
  exact resolveQuery_width hr hrun

/-- What tells of the columns of a table has as many values as it has columns itself. -/
theorem describe_width {catalog : Catalog} {name : String} (h : describe catalog name = .ok rows) :
    ∀ row ∈ rows, row.length = infoColumns.length := by
  have hinfo : infoColumns.length = 6 := rfl
  rw [describe] at h
  rw [hinfo]
  split at h
  · obtain rfl := Except.ok.inj h
    intro row hrow
    obtain ⟨_, -, rfl⟩ := List.mem_map.1 hrow
    rfl
  · split at h
    · obtain rfl := Except.ok.inj h
      nofun
    · obtain ⟨r, -, h⟩ := bind_eq_ok.1 h
      obtain rfl := Except.ok.inj h
      intro row hrow
      obtain ⟨_, -, rfl⟩ := List.mem_map.1 hrow
      rfl

theorem pragma_width {name : String} {argument : Option String} {columns : List String}
    (hc : columnsOf c.catalog (.pragma name argument) = .ok columns)
    (h : c.pragma name argument = (c', .ok rows)) : ∀ row ∈ rows, row.length = columns.length := by
  have hresult := congrArg Prod.snd h
  unfold columnsOf pragmaColumns at hc
  unfold pragma at hresult
  dsimp only at hc
  -- one value for a setting that is asked for
  have hone {v : Value} {column : String} (hv : [[v]] = rows) (hcolumn : [column] = columns) :
      ∀ row ∈ rows, row.length = columns.length := by
    subst hv hcolumn
    simp
  generalize String.ofList (foldName name) = setting at hc hresult
  split at hresult
  · obtain ⟨described, -, rfl⟩ := map_eq_ok.1 hc
    exact describe_width hresult
  · exact hone (Except.ok.inj hresult) (Except.ok.inj hc)
  · obtain rfl := Except.ok.inj hresult
    nofun
  · exact hone (Except.ok.inj hresult) (Except.ok.inj hc)
  · split at hresult
    · cases hresult
    · obtain rfl := Except.ok.inj hresult
      nofun
  · exact hone (Except.ok.inj hresult) (Except.ok.inj hc)
  · exact hone (Except.ok.inj hresult) (Except.ok.inj hc)
  · exact hone (Except.ok.inj hresult) (Except.ok.inj hc)
  · obtain rfl := Except.ok.inj hresult
    nofun

/-- A statement that is compiled for the tables as they are yields a value for each of its
columns. -/
theorem run_width {patience : Nat} {bound : List Value} {i : Instruction} {columns : List String}
    (hc : columnsOf c.catalog i = .ok columns) (h : c.run patience bound i = (c', .ok rows)) :
    ∀ row ∈ rows, row.length = columns.length := by
  unfold run at h
  dsimp only at h
  split at h
  · cases h
  cases i with
  | query q =>
    dsimp only at h
    split at h
    · next found hfound =>
      obtain rfl := Except.ok.inj (Prod.mk.inj h).2
      exact query_width hc hfound
    · cases h
  | insert i => exact changed_width hc (fun _ _ => length_insertAll) h
  | update commons u => exact changed_width hc (fun _ _ => length_updateAll) h
  | delete commons d => exact changed_width hc (fun _ _ => length_deleteAll) h
  | pragma name argument => exact pragma_width hc h
  | createTable | createTableAs | createIndex | createView | drop | alter =>
    exact (rowless_defined c _).width h _
  | begin => exact (rowless_begin c).width h _
  | commit => exact (rowless_commit c).width h _
  | rollback => exact (rowless_rollback c).width h _
  | savepoint name => exact (rowless_ok _).width h _
  | release name => exact (rowless_release c name).width h _
  | rollbackTo name => exact (rowless_rollbackTo c name).width h _
  | maintain => exact (rowless_ok c).width h _
  | vacuum =>
    dsimp only at h
    split at h
    · exact (rowless_error c _).width h _
    · exact (rowless_ok c).width h _

end Connection

end Sql
end Tabular
