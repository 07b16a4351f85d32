import Tabular.Proofs.OneTable
import Tabular.Proofs.Results
import Tabular.Proofs.StatementReading
import Tabular.Proofs.StoreRuns

/-!
# The row of a number

In a plain table the name `id` means the number of the row, and the selection of a number
finds the one row that stands under it, or none.
-/

set_option autoImplicit false

namespace Tabular.Sql

section

variable {α : Type}

/-- What stands at one place only is all that is left of a list. -/
theorem filter_singleton {l : List α} {p : α → Bool} {i : Nat} {a : α} (hi : l[i]? = some a)
    (ha : p a) (h : ∀ (j : Nat) b, l[j]? = some b → p b → j = i) : l.filter p = [a] := by
  induction l generalizing i with
  | nil => cases hi
  | cons b l ih =>
    cases i with
    | zero =>
      obtain rfl := Option.some.inj hi
      have hnone : l.filter p = [] := by
        refine List.filter_eq_nil_iff.2 fun x hx hp => ?_
        obtain ⟨j, hj⟩ := List.mem_iff_getElem?.1 hx
        cases h (j + 1) x hj hp
      rw [List.filter_cons_of_pos ha, hnone]
    | succ i =>
      have hb : ¬p b := fun hb => by cases h 0 b rfl hb
      rw [List.filter_cons_of_neg hb]
      exact ih hi fun j x hj hp => Nat.succ.inj (h (j + 1) x hj hp)

end

theorem Resolving.bind_ok {α β : Type} {r : Resolving α} {f : α → Resolving β} {a : α}
    {gathered rest : List (Gathered Plan)} (h : r gathered = .ok (a, rest)) :
    (r >>= f) gathered = f a rest := by
  simp only [bind, h]

theorem optional_some {term : Words} {f : Words → Resolving Typed} {typed : Typed}
    {gathered rest : List (Gathered Plan)} (h : f term gathered = .ok (typed, rest)) :
    optional (some term) f gathered = .ok (some typed.expr, rest) := by
  rw [optional, Resolving.bind_ok h]
  rfl

namespace Table

variable {t : Table} {i : Nat} {c : Column}

def columnTyped (i : Nat) (c : Column) : Typed :=
  ⟨.place ⟨0, i⟩, c.affinity, some (false, c.collation), false⟩

theorem getElem?_visibles (t : Table) (j : Nat) :
    (visibles t.headings 0)[j]? = t.columns[j]?.map fun c => ⟨.ofColumn c, j, false⟩ := by
  rw [visibles, List.getElem?_map, List.getElem?_zipIdx, headings, List.getElem?_map]
  cases t.columns[j]? <;> simp

theorem Plain.visible (h : t.Plain) (hi : t.columns[i]? = some c) {name : String}
    (hs : sameName c.name name) (b : Bool) :
    (visibles t.headings 0).filter (fun v => sameName v.heading.name name && !(v.merged && b)) =
      [⟨.ofColumn c, i, false⟩] := by
  refine filter_singleton (i := i) ?_ ?_ fun j v hj hv => ?_
  · rw [getElem?_visibles, hi]
    rfl
  · simpa [Heading.ofColumn] using hs
  · rw [getElem?_visibles, Option.map_eq_some_iff] at hj
    obtain ⟨c', hj, rfl⟩ := hj
    simp only [Heading.ofColumn, Bool.false_and, Bool.not_false, Bool.and_true] at hv
    exact h.place_inj hj hi ((sameName_iff.1 hv).trans (sameName_iff.1 hs).symm)

/-- A bare name means the column that it is the name of. -/
theorem Plain.column (h : t.Plain) (hi : t.columns[i]? = some c) {name : String}
    (hs : sameName c.name name) (site : Site) (label : String) (aliases : List (String × Typed)) :
    (site.within ⟨[t.range label 0], aliases⟩).column none name .bare = .ok (columnTyped i c) := by
  have hcolumns : (Frame.mk [t.range label 0] aliases).columns none name =
      [⟨.ofColumn c, i, false⟩] := by
    simp only [Frame.columns, range, List.filter_cons, isLabelled, List.filter_nil, if_true,
      List.flatMap_cons, List.flatMap_nil, List.append_nil, h.visible hi hs, List.isEmpty_cons,
      Bool.false_and, Bool.false_eq_true, if_false]
  have hfind : (site.within ⟨[t.range label 0], aliases⟩).find none name =
      .ok (some (some ⟨.ofColumn c, i, false⟩, columnTyped i c)) := by
    simp only [Site.find, Site.within, Site.findIn, Frame.find, hcolumns]
    rfl
  rw [Site.column, hfind]
  simp only [bind, Except.bind]
  cases (site.within ⟨[t.range label 0], aliases⟩).aggregates <;> rfl

def idFormula (i : Nat) (c : Column) (n : Nat) : Formula :=
  .compare .equal (c.affinity.common .unset) c.collation (.place ⟨0, i⟩) (.parameter n)

theorem Plain.resolve_id (h : t.Plain) (hi : t.columns[i]? = some c) (hid : c.name = "id")
    (sub : Sub) (site : Site) (label : String) (aliases : List (String × Typed)) (n : Nat)
    (gathered : List (Gathered Plan)) :
    (idTerm n).resolve sub (site.within ⟨[t.range label 0], aliases⟩) gathered =
      .ok (.plain (idFormula i c n), gathered) := by
  have hcolumn := h.column hi (show sameName c.name "id" by rw [hid]; rfl) site label aliases
  have hterm : (Term.column none "id" .bare : Words).resolve sub
      (site.within ⟨[t.range label 0], aliases⟩) gathered = .ok (columnTyped i c, gathered) := by
    rw [Term.resolve, Resolving.lift, hcolumn]
    rfl
  rw [idTerm, Term.resolve, Resolving.bind_ok hterm]
  rfl

theorem Fits.id_cell {id : Int64} {row : Row} (h : t.Fits id row) (hi : t.columns[i]? = some c)
    (hid : t.idColumn = some i) : row[i]? = some (.int id) := by
  obtain ⟨v, hv⟩ := exists_cell h.1 hi
  have hcell := getElem?_stored id hi hv
  rwa [h.2, if_pos hid] at hcell

end Table

section

variable {P : Type} {run : P → Scene → Except Fault Found} {s : Scene}

theorem compare_numbers (a : Affinity) (c : Collation) (i j : Int64) :
    BinaryOp.equal.compare a c (.int i) (.int j) = .ofBool (i = j) := by
  have hplain : a.compared (.int i) (.int j) = (.int i, .int j) := by cases a <;> rfl
  have horder : (Value.compare c (.int i) (.int j) = .eq) ↔ i = j := by
    simp only [Value.compare]
    grind
  simp only [BinaryOp.compare, hplain, BinaryOp.holds, decide_eq_decide.2 horder]
  rfl

/-- The members that a test keeps of a list, each seen as something else. -/
theorem keep_map {α β : Type} {f : α → Except Fault Bool} {g : β → α} {q : β → Bool} {bs : List β}
    (h : ∀ b ∈ bs, f (g b) = .ok (q b)) : keep f (bs.map g) = .ok ((bs.filter q).map g) := by
  have hmarked : ((bs.map g).mapM fun a => do
      let b ← f a
      .ok (a, b)) = (.ok ((bs.map g).zip (bs.map q)) : Except Fault (List (α × Bool))) := by
    rw [List.mapM_map, List.zip_map']
    refine mapM_ok fun b hb => ?_
    simp only [Function.comp_apply, h b hb]
    rfl
  rw [keep, hmarked]
  change Except.ok _ = _
  rw [List.zip_map', List.filter_map, List.map_map]
  rfl

theorem keep_all {α : Type} (as : List α) : keep (fun _ => .ok true) as = .ok as := by
  have hall : ∀ a ∈ as, (.ok true : Except Fault Bool) = .ok true := fun _ _ => rfl
  have hkept := keep_map (f := fun _ => .ok true) (g := id) (q := fun _ => true) hall
  rwa [List.map_id, List.filter_true, List.map_id] at hkept

/-- A source that stands alone yields its rows as they are. -/
theorem joinAll_one {supply : Supply P} {found : Row → Except Fault Found} {rows : List Row}
    (hsupply : supply.rows run s = .ok found) (hfound : found [] = .ok (.all rows)) (width : Nat) :
    joinAll run s (.all [[]]) 0 [⟨supply, width, .inner, none⟩] = .ok (.all rows) := by
  have hkeep : keep (fun row => Expr.isTrue run (s.within ([] ++ row)) none) rows = .ok rows :=
    keep_all rows
  have hjoin : joinWith run s (.all [[]]) 0 ⟨supply, width, .inner, none⟩ = .ok (.all rows) := by
    rw [joinWith, hsupply]
    simp only [bind, Except.bind, pure, Except.pure, Found.all, List.mapM_cons, List.mapM_nil]
    rw [hfound]
    simp only [Found.all, hkeep]
    simp
  rw [joinAll, hjoin]
  rfl

end

namespace Table

variable {t : Table} {run : Plan → Scene → Except Fault Found} {s : Scene} {i n : Nat} {c : Column}
  {id : Int64}

theorem eval_id {row : Row} {j : Int64} (hrow : row[i]? = some (.int j))
    (hn : s.parameters[n - 1]? = some (.int id)) :
    Expr.eval run (s.within row) (idFormula i c n) = .ok (.ofBool (j = id)) := by
  have hplace : (s.within row).place ⟨0, i⟩ = .int j := by
    simp [Scene.place, Scene.within, hrow]
  have hparameter : (((s.within row).parameters[n - 1]?).getD .null) = .int id := by
    simp [Scene.within, hn]
  simp only [idFormula, Expr.eval, hplace, hparameter, bind, Except.bind, compare_numbers]

def source (t : Table) : Joined Plan := ⟨.table t.name, t.width + 1, .inner, none⟩

theorem joinAll_source (ht : t.Plain) (h : s.catalog.readable? t.name = some t) :
    joinAll run s (.all [[]]) 0 [t.source] =
      .ok (.all (t.rows.entries.map fun e => seen e.1 e.2)) := by
  have hsupply : t.source.supply.rows run s =
      .ok fun _ => .ok (.all (t.rows.entries.map fun e => seen e.1 e.2)) := by
    simp only [source, Supply.rows, h, ordered, ht.counted, Bool.false_eq_true, if_false]
  exact joinAll_one hsupply rfl _

/-- The selection of a number computes its columns for the one row under it, if there is one. -/
theorem run_select (ht : t.Plain) (hs : t.Sound) (h : s.catalog.readable? t.name = some t)
    (hid : t.idColumn = some i) (hi : t.columns[i]? = some c)
    (hn : s.parameters[n - 1]? = some (.int id)) {outputs : List Formula} {f : Row → Row}
    (hout : ∀ row, t.rows.get? id = some row →
      Expr.evalAll run (s.within (seen id row)) outputs = .ok (f row)) (cs : List Collation) :
    (Stage.select [t.source] (some (idFormula i c n)) none outputs false).run run s cs =
      .ok (.all ((t.rows.get? id).map f).toList) := by
  have hmet : keep (fun row => Expr.isTrue run (s.within row) (some (idFormula i c n)))
      (t.rows.entries.map fun e => seen e.1 e.2) =
        .ok ((t.rows.get? id).map (seen id)).toList := by
    rw [keep_map (q := fun e => e.1 = id), hs.ascending.filter_id]
    · cases t.rows.get? id <;> rfl
    · intro e he
      have hcell := (hs.fits e he).id_cell hi hid
      have hrow : (seen e.1 e.2)[i]? = some (.int e.1) := by
        rw [seen, List.getElem?_append_left (List.getElem?_eq_some_iff.1 hcell).1, hcell]
      rw [Expr.isTrue, eval_id hrow hn]
      by_cases heq : e.1 = id <;> simp [Except.map, Value.ofBool, Value.truth, heq]
  rw [Stage.run, List.map_cons, List.map_nil, joinAll_source ht h]
  simp only [bind, Except.bind, Found.all, hmet]
  cases hrow : t.rows.get? id with
  | none => rfl
  | some row =>
    simp only [Option.map_some, Option.toList_some, List.mapM_cons, List.mapM_nil, hout row hrow]
    rfl

end Table

theorem length_evalAll {P : Type} {run : P → Scene → Except Fault Found} {s : Scene}
    {es : List (Expr P)} {vs : List Value} (h : Expr.evalAll run s es = .ok vs) :
    vs.length = es.length := by
  induction es generalizing vs with
  | nil =>
    rw [Expr.evalAll] at h
    rw [← Except.ok.inj h]
    rfl
  | cons e es ih =>
    rw [Expr.evalAll] at h
    obtain ⟨v, -, h⟩ := bind_eq_ok.1 h
    obtain ⟨rest, hrest, h⟩ := bind_eq_ok.1 h
    rw [← Except.ok.inj h, List.length_cons, List.length_cons, ih hrest]

theorem evalAll_map {P β : Type} {run : P → Scene → Except Fault Found} {s : Scene}
    {e : β → Expr P} {v : β → Value} {bs : List β} (h : ∀ b ∈ bs, (e b).eval run s = .ok (v b)) :
    Expr.evalAll run s (bs.map e) = .ok (bs.map v) := by
  induction bs with
  | nil => rfl
  | cons b bs ih =>
    obtain ⟨hb, hbs⟩ := List.forall_mem_cons.1 h
    simp only [List.map_cons, Expr.evalAll, hb, ih hbs, bind, Except.bind]

def innerRun : Plan → Scene → Except Fault Found := Plan.runWithin (Plan.nesting - 1)

/-- A plan of one stage yields the rows of the stage. -/
theorem run_stage {s : Scene} {width : Nat} {cs : List Collation} {stage : Stage Plan}
    {rows : List Row} (h : stage.run innerRun s cs = .ok (.all rows))
    (hw : ∀ row ∈ rows, row.length ≤ width) :
    Plan.run (.query ⟨width, cs, stage, [], [], none, none⟩) s = .ok (.all rows) := by
  change PlanOf.run innerRun s _ = _
  have htake : rows.map (fun row => row.take width) = rows :=
    (List.map_congr_left fun row hrow => List.take_of_length_le (hw row hrow)).trans
      (List.map_id _)
  rw [PlanOf.run, h]
  simp only [bind, Except.bind, List.foldlM_nil, pure, Except.pure, limitValue, List.isEmpty_nil,
    if_true, cutTo, Option.getD_none, Int.toNat_zero, List.drop_zero, Found.all, htake]

/-- A query yields the rows of its plan. -/
theorem Connection.run_query {c : Connection} {patience : Nat} {parameters : List Value} {q : Query}
    {plan : Plan} {rows : List Row}
    (h : ∃ headings, resolveQuery (Site.ofCatalog c.catalog) q = .ok ⟨plan, headings⟩)
    (hrun : plan.run (c.scene parameters patience) = .ok (.all rows)) :
    c.run patience parameters (.query q) = (c, .ok rows) := by
  obtain ⟨headings, hresolve⟩ := h
  have hwrites : (c.readOnly && Connection.writes (.query q)) = false := Bool.and_false _
  rw [Connection.run, hwrites, if_neg Bool.false_ne_true]
  simp only [hresolve, bind, Except.bind, hrun, Found.complete, Found.all, Bool.false_eq_true,
    if_false]

namespace Table

variable {t : Table} {s : Scene} {i n : Nat} {c : Column} {id : Int64}

theorem run_selection (ht : t.Plain) (hs : t.Sound) (h : s.catalog.readable? t.name = some t)
    (hid : t.idColumn = some i) (hi : t.columns[i]? = some c)
    (hn : s.parameters[n - 1]? = some (.int id)) {outputs : List Formula} {f : Row → Row}
    (hout : ∀ row, t.rows.get? id = some row →
      Expr.evalAll innerRun (s.within (seen id row)) outputs = .ok (f row)) (cs : List Collation) :
    Plan.run (.query ⟨outputs.length, cs, .select [t.source] (some (idFormula i c n)) none outputs
        false, [], [], none, none⟩) s =
      .ok (.all ((t.rows.get? id).map f).toList) := by
  refine run_stage (run_select ht hs h hid hi hn hout cs) fun row hrow => ?_
  rw [Option.mem_toList, Option.map_eq_some_iff] at hrow
  obtain ⟨old, hold, rfl⟩ := hrow
  exact Nat.le_of_eq (length_evalAll (hout old hold))

variable {catalog : Catalog} {name : String} {site : Site}

def sourced (t : Table) (label : String) : Sourced := ⟨t.source, t.range label 0⟩

theorem resolve_origins (site : Site) (h : catalog.Holds name t) (hc : site.catalog = catalog)
    (hn : site.commons = []) (ho : site.closed = false) (sub : Sub) (written : String)
    (label : Option String) :
    resolveOrigins sub site [] 0 [⟨.named ⟨none, name, written⟩, label, .inner, false, none, []⟩] =
      .ok [t.sourced (label.getD name)] := by
  have hcommon : site.common? name = none := by simp [Site.common?, hn]
  have hname : resolveName sub site ⟨none, name, written⟩ (label.getD name) 0 =
      .ok (.table t.name, t.range (label.getD name) 0) := by
    have hreadable := h.readable?
    rw [← hc] at hreadable
    simp only [resolveName, Option.isNone_none, if_true, hcommon, ho, isKnownSchema, Bool.not_true,
      Bool.false_eq_true, if_false, hreadable]
  have hwidth : (t.range (label.getD name) 0).columns.length = t.width := by
    simp [range, visibles, headings, width]
  simp only [resolveOrigins, resolveOrigin, hname, bind, Except.bind, hwidth]
  rfl

theorem resolve_joins (sub : Sub) (site : Site) (label : String) (origin : Origin Query)
    (given : Option String) :
    resolveJoins sub site []
      ([t.sourced label].zip [⟨origin, given, .inner, false, none, []⟩]) =
        .ok [t.sourced label] := rfl

end Table

def innerSub : Sub := resolveWithin (Plan.nesting - 1)

theorem resolveQuery_mk (site : Site) (q : QueryOf Query) :
    resolveQuery site (.mk q) = resolveBody innerSub site q := rfl

theorem withCommons_nil (site : Site) : withCommons site [] = site := rfl

def rowQuery (name : String) : QueryOf Query :=
  ⟨false, [], .select false [.star] [sourceOf name] (some (idTerm 1)) [] none, [], [], none, none⟩

namespace Table

variable {t : Table} {s : Scene} {i : Nat} {c : Column} {id : Int64} {catalog : Catalog}
  {name : String}

def outputs (t : Table) : List Output := (visibles t.headings 0).map Visible.output

theorem starOutputs_range (t : Table) (label : String) :
    starOutputs (t.range label 0) = t.outputs := by
  have hall : (visibles t.headings 0).filter (fun v => !v.merged) = visibles t.headings 0 := by
    refine List.filter_eq_self.2 fun v hv => ?_
    obtain ⟨x, -, rfl⟩ := List.mem_map.1 hv
    rfl
  exact congrArg (List.map Visible.output) hall

def rowPlan (t : Table) (i : Nat) (c : Column) : Plan :=
  .query ⟨t.outputs.length, t.outputs.map fun o => o.typed.collationOrBinary,
    .select [t.source] (some (idFormula i c 1)) none (t.outputs.map fun o => o.typed.expr) false,
    [], [], none, none⟩

theorem resolveOutputs_star (t : Table) (sub : Sub) (site : Site) (label : String)
    (gathered : List (Gathered Plan)) :
    resolveOutputs sub site [t.range label 0] [.star] gathered = .ok (t.outputs, gathered) := by
  have hfirst : resolveOutput sub site [t.range label 0] .star gathered =
      .ok (t.outputs, gathered) := by
    rw [resolveOutput, if_neg (by simp), List.flatMap_cons, List.flatMap_nil, List.append_nil,
      starOutputs_range]
    rfl
  rw [resolveOutputs, Resolving.bind_ok hfirst]
  change Except.ok (t.outputs ++ [], gathered) = _
  rw [List.append_nil]

theorem resolve_row (h : catalog.Holds name t) (ht : t.Plain) (hi : t.columns[i]? = some c)
    (hid : c.name = "id") :
    resolveQuery (Site.ofCatalog catalog) (.mk (rowQuery name)) =
      .ok ⟨t.rowPlan i c, t.outputs.map Output.heading⟩ := by
  have horigins := resolve_origins (Site.ofCatalog catalog).refuseAggregates h rfl rfl rfl
    innerSub name none
  have hnone (f : Words → Resolving Typed) : optional none f [] = .ok (none, []) := rfl
  have hcore : resolveCore innerSub (Site.ofCatalog catalog).refuseAggregates []
      (.select false [.star] [sourceOf name] (some (idTerm 1)) [] none) =
        .ok ⟨.select [t.source] (some (idFormula i c 1)) none (t.outputs.map fun o => o.typed.expr)
          false, t.outputs, []⟩ := by
    have hcondition (site : Site) (aliases : List (String × Typed)) :
        optional (some (idTerm 1)) (Term.resolve innerSub
          (site.within ⟨[t.range name 0], aliases⟩).refuseAggregates) [] =
            .ok (some (idFormula i c 1), []) :=
      optional_some (ht.resolve_id hi hid innerSub site.refuseAggregates name aliases 1 [])
    have hsources : [sourceOf name] =
        [⟨.named ⟨none, name, name⟩, none, .inner, false, none, []⟩] := rfl
    have hrange : (t.sourced name).range = t.range name 0 := rfl
    rw [resolveCore]
    simp only [hsources, horigins, Option.getD_none, resolve_joins, bind, Except.bind,
      List.map_cons, List.map_nil, hrange, resolveOutputs_star]
    have horder (site : Site) (outputs : List Output) :
        resolveOrder innerSub site outputs 1 [] [] [] = .ok (([], []), []) := rfl
    simp only [hnone, hcondition, horder, resolveGroup, List.isEmpty_nil, Option.isSome_none,
      Bool.false_and, Bool.false_eq_true, if_false, Bool.and_self, if_true, List.map_nil,
      List.append_nil]
    rfl
  rw [resolveQuery_mk, resolveBody]
  simp only [rowQuery, withCommons_nil, hnone, hcore, bind, Except.bind, List.isEmpty_nil, if_true,
    resolveRest, List.map_nil]
  rfl

theorem getElem?_outputs (t : Table) (j : Nat) :
    t.outputs[j]? = t.columns[j]?.map fun c => ⟨c.name, false, c.type, columnTyped j c⟩ := by
  rw [outputs, List.getElem?_map, getElem?_visibles, Option.map_map]
  rfl

theorem names_outputs (t : Table) :
    (t.outputs.map Output.heading).map Heading.name = t.columns.map Column.name := by
  rw [List.map_map]
  apply List.ext_getElem?
  intro j
  rw [List.getElem?_map, List.getElem?_map, getElem?_outputs, Option.map_map]
  rfl

theorem evalAll_outputs {run : Plan → Scene → Except Fault Found} {row : Row}
    (h : row.length = t.width) :
    Expr.evalAll run (s.within (seen id row)) (t.outputs.map fun o => o.typed.expr) = .ok row := by
  have hplaces : (t.outputs.map fun o => o.typed.expr) =
      (List.range t.width).map fun j => .place ⟨0, j⟩ := by
    apply List.ext_getElem?
    intro j
    rw [List.getElem?_map, List.getElem?_map, getElem?_outputs, Option.map_map]
    by_cases hj : j < t.width
    · rw [List.getElem?_range hj, List.getElem?_eq_getElem hj]
      rfl
    · have hnone : t.columns[j]? = none := List.getElem?_eq_none (Nat.le_of_not_lt hj)
      simp [hnone, hj]
  have hcells :
      ((List.range t.width).map fun j => (s.within (seen id row)).place ⟨0, j⟩) = row := by
    apply List.ext_getElem?
    intro j
    rw [List.getElem?_map]
    by_cases hj : j < t.width
    · have hrow : j < row.length := h ▸ hj
      simp [Scene.place, Scene.within, seen, hj, hrow, List.getElem?_append_left]
    · simp [h, hj]
  rw [hplaces, evalAll_map (v := fun j => (s.within (seen id row)).place ⟨0, j⟩) fun _ _ => rfl,
    hcells]

/-- The row under a number, as it is read by the query for it. -/
theorem run_row {c : Connection} {patience : Nat} {parameters : List Value}
    (h : c.catalog.Holds name t) (ht : t.Plain) (hs : t.Sound)
    (hn : parameters[0]? = some (.int id)) :
    c.run patience parameters (.query (.mk (rowQuery name))) =
      (c, .ok (t.rows.get? id).toList) := by
  obtain ⟨i, idc, hid, hi, hname⟩ := ht.numbered
  have hrun : (t.rowPlan i idc).run (c.scene parameters patience) =
      .ok (.all ((t.rows.get? id).map fun row => row).toList) := by
    have hexprs : (t.outputs.map fun o => o.typed.expr).length = t.outputs.length :=
      List.length_map _
    rw [rowPlan, ← hexprs]
    refine run_selection ht hs h.itself.readable? hid hi hn (fun row hrow => ?_) _
    exact evalAll_outputs (hs.get? hrow).1
  rw [Option.map_id'] at hrun
  exact Connection.run_query ⟨_, resolve_row h ht hi hname⟩ hrun

theorem columns_row {c : Connection} (hd : c.damaged = false) (h : c.catalog.Holds name t)
    (ht : t.Plain) :
    c.columnsHere (.query (.mk (rowQuery name))) = .ok (t.columns.map Column.name) := by
  obtain ⟨i, idc, -, hi, hname⟩ := ht.numbered
  rw [Connection.columnsHere, hd, if_neg Bool.false_ne_true, Connection.columnsOf,
    resolve_row h ht hi hname, ← names_outputs]
  rfl

end Table
end Tabular.Sql
