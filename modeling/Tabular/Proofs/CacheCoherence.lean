import Mathlib.Data.List.Induction
import Tabular.Database
import Tabular.Proofs.ColumnQuestion
import Tabular.Proofs.KeptColumns

/-!
# When the kept types are those of the tables

A database with a cache and one without it answer alike as long as whatever changes
the columns of a table that is kept also drops the cache. It is dropped only by a text
that begins as a definition and runs to its end, so a definition that stands behind
another statement, or in front of one that fails, leaves outdated types behind.
-/

set_option autoImplicit false

namespace Tabular

open ColumnCache

structure Database.Beside (d e : Database) : Prop where
  stores : d.store.Alongside e.store
  tidy : d.store.Tidy ∧ e.store.Tidy
  cached : d.columns.kept.isSome
  uncached : e.columns.kept = none

namespace Database.Operation

variable {α β : Type}

structure Faithful (condition : Database → Prop) (op : Operation α) : Prop where
  grows : ∀ d, d.store.Tidy →
    (op d).2.store.Tidy ∧ d.store.compiled.length ≤ (op d).2.store.compiled.length
  alike : ∀ d e, condition d → Beside d e → (op d).2.store.Roomy → (op e).2.store.Roomy →
    (op d).1 = (op e).1 ∧ Beside (op d).2 (op e).2

def anywhere : Database → Prop := fun _ => True

theorem faithful_lift (r : Except AccessError α) : Faithful anywhere (lift r) where
  grows _ h := ⟨h, Nat.le_refl _⟩
  alike _ _ _ h _ _ := ⟨rfl, h⟩

theorem faithful_pure (a : α) : Faithful anywhere (pure a : Operation α) := faithful_lift (.ok a)

theorem bind_eq (op : Operation α) (f : α → Operation β) (d : Database) :
    (op >>= f) d =
      match op d with
      | (.ok a, d) => f a d
      | (.error e, d) => (.error e, d) := rfl

theorem Faithful.bind {condition : Database → Prop} {op : Operation α} {f : α → Operation β}
    (h : Faithful condition op) (hf : ∀ a, Faithful anywhere (f a)) :
    Faithful condition (op >>= f) := by
  constructor
  · intro d hd
    obtain ⟨ht, hl⟩ := h.grows d hd
    rw [bind_eq]
    generalize op d = x at ht hl
    rcases x with ⟨_ | a, d'⟩
    · exact ⟨ht, hl⟩
    · obtain ⟨ht', hl'⟩ := (hf a).grows d' ht
      exact ⟨ht', Nat.le_trans hl hl'⟩
  · intro d e hc hb hd he
    have hgd := (h.grows d hb.tidy.1).1
    have hge := (h.grows e hb.tidy.2).1
    have halike := h.alike d e hc hb
    rw [bind_eq] at hd he ⊢
    rw [bind_eq op f e]
    generalize op d = x at hgd halike hd
    generalize op e = y at hge halike he
    obtain ⟨r, d'⟩ := x
    obtain ⟨r', e'⟩ := y
    have hroom {x : Database} {a : α} (ht : x.store.Tidy) (hr : (f a x).2.store.Roomy) :
        x.store.Roomy := Nat.lt_of_le_of_lt ((hf a).grows x ht).2 hr
    have hd' : d'.store.Roomy := by
      cases r with
      | error => exact hd
      | ok a => exact hroom hgd hd
    have he' : e'.store.Roomy := by
      cases r' with
      | error => exact he
      | ok a => exact hroom hge he
    obtain ⟨hr, hb'⟩ := halike hd' he'
    obtain rfl : r = r' := hr
    cases r with
    | error => exact ⟨rfl, hb'⟩
    | ok a => exact (hf a).alike d' e' trivial hb' hd he

theorem tracked_eq (op : Operation α) (d : Database) :
    (tracked op d).1 = (op d).1 ∧ (tracked op d).2.store = (op d).2.store ∧
      (tracked op d).2.columns = (op d).2.columns := by
  rw [tracked]
  rcases op d with ⟨_ | a, d'⟩ <;> exact ⟨rfl, rfl, rfl⟩

theorem snd_map (f : α → β) (op : Operation α) (d : Database) : ((f <$> op) d).2 = (op d).2 := by
  change ((op >>= fun a => pure (f a)) d).2 = _
  rw [bind_eq]
  rcases op d with ⟨_ | _, _⟩ <;> rfl

theorem Faithful.tracked {condition : Database → Prop} {op : Operation α}
    (h : Faithful condition op) : Faithful condition (tracked op) where
  grows d hd := by
    rw [(tracked_eq op d).2.1]
    exact h.grows d hd
  alike d e hc hb hd he := by
    obtain ⟨hd1, hd2, hd3⟩ := tracked_eq op d
    obtain ⟨he1, he2, he3⟩ := tracked_eq op e
    rw [hd2] at hd
    rw [he2] at he
    obtain ⟨hr, hb'⟩ := h.alike d e hc hb hd he
    refine ⟨by rw [hd1, he1, hr], ?_, ?_, ?_, ?_⟩
    · rw [hd2, he2]
      exact hb'.stores
    · rw [hd2, he2]
      exact hb'.tidy
    · rw [hd3]
      exact hb'.cached
    · rw [he3]
      exact hb'.uncached

theorem faithful_execute (s : Statement) : Faithful anywhere (execute s) where
  grows d hd := by
    change (d.store.run s).2.Tidy ∧ _ ≤ (d.store.run s).2.compiled.length
    rw [Store.run_eq]
    exact Store.tidy_keeping hd _
  alike d e _ hb hd he := by
    obtain ⟨hr, hs⟩ := hb.stores.run s hd he
    have htidy {t : Store} (h : t.Tidy) : (t.run s).2.Tidy := by
      rw [Store.run_eq]
      exact (Store.tidy_keeping h _).1
    exact ⟨hr, hs, ⟨htidy hb.tidy.1, htidy hb.tidy.2⟩, hb.cached, hb.uncached⟩

end Database.Operation

namespace ColumnCache

variable {c : ColumnCache} {s : Store} {table : String}

theorem resolve_miss (h : c.get? table = none) :
    c.resolve Store.run s table = (answerAbout s table, (s.run (question table)).2,
      c.learn table (answerAbout s table)) := resolve_asking h

end ColumnCache

namespace Database

def Current (table : String) (d : Database) : Prop :=
  ∀ types, d.columns.get? table = some types → answerAbout d.store table = .ok types

theorem typesOf_eq (table : String) (d : Database) :
    typesOf table d =
      match Statement.checkTable table with
      | .error e => (.error e, d)
      | .ok _ =>
        let (r, store, columns) := d.columns.resolve Store.run d.store table
        (r, { d with store, columns }) := by
  rw [typesOf, Operation.bind_eq, Operation.lift]
  cases Statement.checkTable table <;> rfl

open Operation in
theorem faithful_typesOf (table : String) : Faithful (Current table) (typesOf table) where
  grows d hd := by
    rw [typesOf_eq]
    cases Statement.checkTable table with
    | error e => exact ⟨hd, Nat.le_refl _⟩
    | ok _ =>
      cases hg : d.columns.get? table with
      | some types =>
        rw [resolve_hit hg]
        exact ⟨hd, Nat.le_refl _⟩
      | none =>
        rw [resolve_miss hg]
        exact (faithful_execute (question table)).grows d hd
  alike d e hc hb hd he := by
    rw [typesOf_eq] at hd he ⊢
    rw [typesOf_eq table e]
    cases hp : Statement.checkTable table with
    | error _ => exact ⟨rfl, hb⟩
    | ok _ =>
      rw [hp] at hd he
      rw [resolve_miss (get?_uncached table hb.uncached)] at he ⊢
      have hanswer := hb.stores.answerAbout_eq table
      have htidy := (faithful_execute (question table)).grows
      have hlearn : e.columns.learn table (answerAbout e.store table) = e.columns := by
        cases answerAbout e.store table with
        | error _ => rfl
        | ok types => exact put_uncached hb.uncached types
      cases hg : d.columns.get? table with
      | some types =>
        rw [resolve_hit hg]
        refine ⟨(hc types hg).symm.trans hanswer, hb.stores.question table he,
          ⟨hb.tidy.1, (htidy e hb.tidy.2).1⟩, hb.cached, ?_⟩
        exact (congrArg kept hlearn).trans hb.uncached
      | none =>
        rw [resolve_miss hg] at hd ⊢
        refine ⟨hanswer, (hb.stores.run (question table) hd he).2,
          ⟨(htidy d hb.tidy.1).1, (htidy e hb.tidy.2).1⟩, ?_, ?_⟩
        · have hcached := hb.cached
          change (d.columns.learn table (answerAbout d.store table)).kept.isSome
          cases answerAbout d.store table with
          | error _ => exact hcached
          | ok types => simpa [learn, put] using hcached
        · exact (congrArg kept hlearn).trans hb.uncached

end Database

inductive Reply where
  | types (t : ColumnTypes)
  | id (n : Int64)
  | count (n : Nat)
  | answer (a : Answer)
  | flag (b : Bool)

inductive Step where
  | types (table : String)
  | add (table : String) (fields : List Field)
  | update (table : String) (id : Int64) (fields : List Field)
  | get (table : String) (id : Int64)
  | list (table : String) (request : ListRequest)
  | delete (table : String) (id : Int64)
  | hasTable (table : String)
  | tables
  | query (sql : String)

namespace Step

open Database Database.Operation

def run : Step → Operation Reply
  | .types table => Reply.types <$> Database.types table
  | .add table fields => Reply.id <$> Database.add table fields
  | .update table id fields => Reply.count <$> Database.update table id fields
  | .get table id => Reply.answer <$> Database.get table id
  | .list table request => Reply.answer <$> Database.list table request
  | .delete table id => Reply.count <$> Database.delete table id
  | .hasTable table => Reply.flag <$> Database.hasTable table
  | .tables => Reply.answer <$> Database.tables
  | .query sql => Reply.answer <$> Database.query sql

def table? : Step → Option String
  | .types table | .add table _ | .update table _ _ | .list table _ => some table
  | _ => none

def isDefinition : Step → Bool
  | .query sql => Definition.definesSchema sql
  | _ => false

structure Modest {α : Type} (op : Operation α) : Prop where
  faithful : Faithful anywhere op
  columns : ∀ d, (op d).2.columns = d.columns

variable {α β : Type}

theorem modest_lift (r : Except AccessError α) : Modest (lift r) := ⟨faithful_lift r, fun _ => rfl⟩

theorem modest_execute (s : Statement) : Modest (execute s) := ⟨faithful_execute s, fun _ => rfl⟩

theorem modest_pure (a : α) : Modest (pure a : Operation α) := modest_lift (.ok a)

theorem Modest.bind {op : Operation α} {f : α → Operation β} (h : Modest op)
    (hf : ∀ a, Modest (f a)) : Modest (op >>= f) where
  faithful := h.faithful.bind fun a => (hf a).faithful
  columns d := by
    have hd := h.columns d
    rw [bind_eq]
    generalize op d = x at hd
    rcases x with ⟨_ | a, d'⟩
    · exact hd
    · exact ((hf a).columns d').trans hd

theorem Modest.tracked {op : Operation α} (h : Modest op) : Modest (tracked op) where
  faithful := h.faithful.tracked
  columns d := (tracked_eq op d).2.2.trans (h.columns d)

theorem Modest.map {op : Operation α} (h : Modest op) (f : α → β) : Modest (f <$> op) :=
  h.bind fun a => modest_pure (f a)

theorem modest_lookup (r : Except AccessError Statement) :
    Modest (lift r >>= fun s => execute s) := (modest_lift r).bind modest_execute

theorem modest_change (r : Except AccessError Statement) (f : Answer → α) :
    Modest (lift r >>= fun s => execute s >>= fun a => pure (f a)) :=
  (modest_lift r).bind fun s => (modest_execute s).bind fun a => modest_pure (f a)

inductive Shape : Step → Prop
  | asking {s : Step} {table : String} {α : Type} {rest : ColumnTypes → Operation α}
      {f : α → Reply} (ht : s.table? = some table) (hd : s.isDefinition = false)
      (hs : s.run = f <$> tracked (typesOf table >>= rest)) (hr : ∀ types, Modest (rest types)) :
      Shape s
  | modest {s : Step} (ht : s.table? = none) (hd : s.isDefinition = false) (hr : Modest s.run) :
      Shape s
  | query (sql : String) : Shape (.query sql)

theorem shape (s : Step) : Shape s := by
  cases s with
  | types table =>
    have hpure : typesOf table >>= pure = typesOf table := by
      funext d
      rw [bind_eq]
      rcases typesOf table d with ⟨_ | _, _⟩ <;> rfl
    have hrun : (types table).run = Reply.types <$> tracked (typesOf table >>= pure) := by
      rw [hpure]
      rfl
    exact .asking rfl rfl hrun modest_pure
  | add table fields =>
    exact .asking rfl rfl rfl fun types => modest_change (Statement.insert table fields types) _
  | update table id fields =>
    exact .asking rfl rfl rfl fun types => modest_change (Statement.update table id fields types) _
  | get table id => exact .modest rfl rfl ((modest_lookup _).tracked.map _)
  | list table request =>
    exact .asking rfl rfl rfl fun types => modest_lookup (Statement.list table request types)
  | delete table id => exact .modest rfl rfl ((modest_change _ _).tracked.map _)
  | hasTable table =>
    exact .modest rfl rfl (((modest_execute _).bind fun a => modest_pure _).tracked.map _)
  | tables => exact .modest rfl rfl ((modest_execute _).tracked.map _)
  | query sql => exact .query sql

def learnt (s : Step) (d : Database) : ColumnCache :=
  match s.table? with
  | some table => (typesOf table d).2.columns
  | none => d.columns

def drops (s : Step) (d : Database) : Bool := s.isDefinition && (s.run d).1.isOk

theorem run_asking {s : Step} {table : String} {rest : ColumnTypes → Operation α} {f : α → Reply}
    (hs : s.run = f <$> tracked (typesOf table >>= rest)) (d : Database) :
    (s.run d).2.store = ((typesOf table >>= rest) d).2.store ∧
      (s.run d).2.columns = ((typesOf table >>= rest) d).2.columns := by
  obtain ⟨_, hstore, hcolumns⟩ := tracked_eq (typesOf table >>= rest) d
  rw [hs, snd_map]
  exact ⟨hstore, hcolumns⟩

def dropping (sql : String) (a : Answer) : Operation Answer := fun d =>
  (.ok a, if Definition.definesSchema sql then { d with columns := d.columns.clear } else d)

theorem query_eq (sql : String) :
    run (.query sql) = Reply.answer <$> tracked (execute (.ofText sql) >>= dropping sql) := rfl

theorem run_query (sql : String) (d : Database) :
    run (.query sql) d =
      match execute (.ofText sql) d with
      | (.ok a, d) => (.ok (.answer a),
          if Definition.definesSchema sql then { d with columns := d.columns.clear } else d)
      | (.error e, d) => (.error e, { d with lastError := some e.record }) := by
  have hmap (op : Operation Answer) : (Reply.answer <$> op) d =
      (op >>= fun a => pure (Reply.answer a)) d := rfl
  rw [query_eq, hmap, bind_eq, tracked, bind_eq]
  rcases execute (.ofText sql) d with ⟨_ | a, d'⟩ <;> rfl

theorem faithful_dropping (sql : String) (a : Answer) : Faithful anywhere (dropping sql a) := by
  cases hs : Definition.definesSchema sql with
  | false =>
    have hpure : dropping sql a = pure a := by
      funext d
      simp only [dropping, hs]
      rfl
    rw [hpure]
    exact faithful_pure a
  | true =>
    have hclear : dropping sql a = fun d => (.ok a, { d with columns := d.columns.clear }) := by
      funext d
      simp only [dropping, hs, if_true]
    rw [hclear]
    refine ⟨fun d hd => ⟨hd, Nat.le_refl _⟩, fun d e _ h _ _ => ⟨rfl, h.stores, h.tidy, ?_, ?_⟩⟩
    · simpa [clear] using h.cached
    · simp [clear, h.uncached]

theorem columns_run (s : Step) (d : Database) :
    (s.run d).2.columns = if s.drops d then d.columns.clear else s.learnt d := by
  rw [drops, learnt]
  cases s.shape with
  | @asking _ table α rest f ht hd hs hr =>
    rw [(run_asking hs d).2, hd, ht, bind_eq]
    simp only [Bool.false_and, Bool.false_eq_true, if_false]
    generalize typesOf table d = x
    rcases x with ⟨_ | types, d'⟩
    · rfl
    · exact (hr types).columns d'
  | modest ht hd hr =>
    rw [hd, ht]
    exact hr.columns d
  | query sql =>
    have hd : (query sql).isDefinition = Definition.definesSchema sql := rfl
    have ht : (query sql).table? = none := rfl
    have hcolumns := (modest_execute (.ofText sql)).columns d
    rw [run_query, hd, ht]
    generalize execute (.ofText sql) d = x at hcolumns
    rcases x with ⟨_ | a, d'⟩
    · cases Definition.definesSchema sql <;> exact hcolumns
    · cases Definition.definesSchema sql with
      | true => exact congrArg clear hcolumns
      | false => exact hcolumns

def OfTable (s : Step) (P : String → Database → Prop) (d : Database) : Prop :=
  ∀ table, s.table? = some table → P table d

theorem faithful_run (s : Step) : Faithful (s.OfTable Current) s.run := by
  cases s.shape with
  | @asking _ table α rest f ht hd hs hr =>
    have h := ((faithful_typesOf table).bind fun types => (hr types).faithful).tracked.bind
      fun a => faithful_pure (f a)
    rw [hs]
    exact ⟨h.grows, fun d e hc => h.alike d e (hc table ht)⟩
  | modest ht hd hr => exact ⟨hr.faithful.grows, fun d e _ => hr.faithful.alike d e trivial⟩
  | query sql =>
    have h := ((faithful_execute (.ofText sql)).bind (faithful_dropping sql)).tracked.bind
      fun a => faithful_pure (Reply.answer a)
    exact ⟨h.grows, fun d e _ => h.alike d e trivial⟩

end Step

namespace Database

def KeepsPlain (d : Database) : Prop :=
  ∀ table types, d.columns.get? table = some types → Statement.checkTable table = .ok ()

theorem typesOf_kept {table : String} {d : Database} {types : ColumnTypes}
    (hp : Statement.checkTable table = .ok ()) (h : d.columns.get? table = some types) :
    typesOf table d = (.ok types, d) := by
  rw [typesOf_eq, hp, resolve_hit h]

theorem typesOf_asked {table : String} {d : Database}
    (hp : Statement.checkTable table = .ok ()) (h : d.columns.get? table = none) :
    typesOf table d = (answerAbout d.store table,
      { d with
        store := (d.store.run (question table)).2
        columns := d.columns.learn table (answerAbout d.store table) }) := by
  rw [typesOf_eq, hp, resolve_miss h]

/-- Types are found in the cache or by asking, and then they are kept; else nothing is. -/
theorem typesOf_cases {d : Database} (hk : d.columns.kept.isSome) (table : String) :
    (∃ e, (typesOf table d).1 = .error e ∧ (typesOf table d).2.columns = d.columns) ∨
      ∃ types, (typesOf table d).1 = .ok types ∧ Statement.checkTable table = .ok () ∧
        (d.columns.get? table = some types ∨ answerAbout d.store table = .ok types) ∧
        ∀ other, (typesOf table d).2.columns.get? other =
          if other = table then some types else d.columns.get? other := by
  cases hp : Statement.checkTable table with
  | error e =>
    rw [typesOf_eq, hp]
    exact .inl ⟨e, rfl, rfl⟩
  | ok _ =>
    cases hg : d.columns.get? table with
    | some types =>
      rw [typesOf_kept hp hg]
      refine .inr ⟨types, rfl, rfl, .inl rfl, fun other => ?_⟩
      split
      · rename_i ho
        rw [ho, hg]
      · rfl
    | none =>
      rw [typesOf_asked hp hg]
      cases ha : answerAbout d.store table with
      | error e => exact .inl ⟨e, rfl, rfl⟩
      | ok types => exact .inr ⟨types, rfl, rfl, .inr rfl, get?_put hk types⟩

/-- Asking for types changes no answer. -/
theorem answerAbout_typesOf {d : Database} (h : Asked d.store) (table other : String) :
    answerAbout (typesOf table d).2.store other = answerAbout d.store other := by
  cases hp : Statement.checkTable table with
  | error e => rw [typesOf_eq, hp]
  | ok _ =>
    cases hg : d.columns.get? table with
    | some types => rw [typesOf_kept hp hg]
    | none =>
      have hasked : Asked (d.store.run (question table)).2 := by
        rw [run_question h]
        exact .inr (Store.known_keeping _ _)
      rw [typesOf_asked hp hg, answerAbout_reply hasked, answerAbout_reply h, run_question h]

end Database

namespace Step

open Database

variable {s : Step} {d : Database} {table : String}

/-- What is kept before the operation's own statement was kept already or just asked for. -/
theorem learnt_get? (hk : d.columns.kept.isSome) (hplain : d.KeepsPlain)
    (hcurrent : ∀ table, Current table d) {types : ColumnTypes}
    (h : (s.learnt d).get? table = some types) :
    Statement.checkTable table = .ok () ∧ answerAbout d.store table = .ok types ∧
      ((d.columns.get? table).isSome ∨ s.table? = some table) := by
  have hold (hg : d.columns.get? table = some types) : Statement.checkTable table = .ok () ∧
      answerAbout d.store table = .ok types ∧
      ((d.columns.get? table).isSome ∨ s.table? = some table) :=
    ⟨hplain table types hg, hcurrent table types hg, .inl (by rw [hg]; rfl)⟩
  rw [learnt] at h
  cases ht : s.table? with
  | none =>
    simp only [ht] at h
    exact ht ▸ hold h
  | some asked =>
    simp only [ht] at h
    rcases typesOf_cases hk asked with ⟨e, _, hc⟩ | ⟨found, _, hp, hfound, hget⟩
    · rw [hc] at h
      exact ht ▸ hold h
    · rw [hget] at h
      split at h
      · rename_i ho
        subst ho
        obtain rfl := Option.some.inj h
        refine ⟨hp, ?_, .inr rfl⟩
        exact hfound.elim (hcurrent table found) id
      · exact ht ▸ hold h

/-- A table that was kept or is asked for is kept, unless the operation ends without doing more. -/
theorem learnt_or_same (hk : d.columns.kept.isSome) (hasked : Asked d.store)
    (h : (d.columns.get? table).isSome ∨ s.table? = some table) :
    (∃ types, (s.learnt d).get? table = some types) ∨
      answerAbout (s.run d).2.store table = answerAbout d.store table := by
  rw [learnt]
  cases s.shape with
  | @asking _ asked α rest f ht hd hs hr =>
    rw [ht] at h ⊢
    rcases typesOf_cases hk asked with ⟨e, he, hc⟩ | ⟨found, _, _, _, hget⟩
    · right
      have hstore : (s.run d).2.store = (typesOf asked d).2.store := by
        rw [(run_asking hs d).1, Operation.bind_eq]
        generalize typesOf asked d = x at he
        obtain ⟨r, d'⟩ := x
        obtain rfl : r = .error e := he
        rfl
      rw [hstore, answerAbout_typesOf hasked]
    · left
      simp only [hget]
      split
      · exact ⟨found, rfl⟩
      · rename_i ho
        rcases h with h | h
        · exact Option.isSome_iff_exists.1 h
        · exact absurd (Option.some.inj h).symm ho
  | modest ht hd hr =>
    rw [ht] at h ⊢
    rcases h with h | h
    · exact .inl (Option.isSome_iff_exists.1 h)
    · cases h
  | query sql =>
    rcases h with h | h
    · exact .inl (Option.isSome_iff_exists.1 h)
    · cases h

end Step

namespace Step

def after (steps : List Step) (d : Database) : Database :=
  steps.foldl (fun d s => (s.run d).2) d

def replies : List Step → Database → List (Except AccessError Reply)
  | [], _ => []
  | s :: rest, d => (s.run d).1 :: replies rest (s.run d).2

theorem after_snoc (pre : List Step) (s : Step) (d : Database) :
    after (pre ++ [s]) d = (s.run (after pre d)).2 := by
  rw [after, List.foldl_append]
  rfl

theorem after_grows (steps rest : List Step) {d : Database} (h : d.store.Tidy) :
    (after steps d).store.Tidy ∧
      (after steps d).store.compiled.length ≤ (after (steps ++ rest) d).store.compiled.length := by
  have hstep (steps : List Step) : ∀ {d : Database}, d.store.Tidy →
      (after steps d).store.Tidy ∧
        d.store.compiled.length ≤ (after steps d).store.compiled.length := by
    induction steps with
    | nil => exact fun h => ⟨h, Nat.le_refl _⟩
    | cons s steps ih =>
      intro d h
      obtain ⟨ht, hl⟩ := s.faithful_run.grows d h
      obtain ⟨ht', hl'⟩ := ih ht
      exact ⟨ht', Nat.le_trans hl hl'⟩
  refine ⟨(hstep steps h).1, ?_⟩
  have happ : after (steps ++ rest) d = after rest (after steps d) := by
    rw [after, List.foldl_append]
    rfl
  rw [happ]
  exact (hstep rest (hstep steps h).1).2

end Step

namespace Database

open Step

def withCache (d : Database) (enabled : Bool) : Database :=
  { d with columns := .ofSetting enabled }

def AnswersAlike (d : Database) (steps : List Step) : Prop :=
  ∀ pre, pre <+: steps → ∀ table,
    (types table (after pre (d.withCache true))).1 = (types table (after pre (d.withCache false))).1

/-- Whatever changes the columns of a table that is kept or asked for drops the cache. -/
def DropsInTime (d : Database) (steps : List Step) : Prop :=
  ∀ pre s, pre ++ [s] <+: steps → ∀ table,
    ((after pre (d.withCache true)).columns.get? table).isSome ∨ s.table? = some table →
    answerAbout (after (pre ++ [s]) (d.withCache false)).store table ≠
      answerAbout (after pre (d.withCache false)).store table →
    s.drops (after pre (d.withCache false))

structure Lockstep (d e : Database) : Prop where
  beside : Beside d e
  plain : d.KeepsPlain
  current : ∀ table, Current table d

theorem types_eq (table : String) (d : Database) : (types table d).1 = (typesOf table d).1 :=
  (Operation.tracked_eq _ d).1

theorem Lockstep.typesOf_eq {d e : Database} (h : Lockstep d e) (table : String) :
    (typesOf table d).1 = (typesOf table e).1 := by
  have hu := get?_uncached table h.beside.uncached
  have ha := h.beside.stores.answerAbout_eq table
  cases hp : Statement.checkTable table with
  | error _ => rw [Database.typesOf_eq, Database.typesOf_eq, hp]
  | ok _ =>
    rw [typesOf_asked hp hu]
    cases hg : d.columns.get? table with
    | none => rw [typesOf_asked hp hg, ha]
    | some types =>
      rw [typesOf_kept hp hg, ← ha]
      exact (h.current table types hg).symm

/-- One operation on both, which may outdate what is kept. -/
theorem Lockstep.step {d e : Database} (h : Lockstep d e) (s : Step)
    (hd : (s.run d).2.store.Roomy) (he : (s.run e).2.store.Roomy) :
    (s.run d).1 = (s.run e).1 ∧ Beside (s.run d).2 (s.run e).2 ∧ (s.run d).2.KeepsPlain := by
  obtain ⟨hr, hb⟩ := s.faithful_run.alike d e (fun table _ => h.current table) h.beside hd he
  refine ⟨hr, hb, fun table types hg => ?_⟩
  rw [columns_run] at hg
  split at hg
  · rw [get?_clear] at hg
    cases hg
  · exact (learnt_get? h.beside.cached h.plain h.current hg).1

/-- What is kept is current again if the cache was dropped, or if no answer has changed
about a table that was kept or asked for. -/
theorem Lockstep.current_step {d e : Database} (h : Lockstep d e) {s : Step}
    (hb : Beside (s.run d).2 (s.run e).2)
    (hs : ∀ table, (d.columns.get? table).isSome ∨ s.table? = some table →
      answerAbout (s.run e).2.store table ≠ answerAbout e.store table → s.drops d) :
    ∀ table, Current table (s.run d).2 := by
  intro table types hg
  rw [columns_run] at hg
  split at hg
  · rw [get?_clear] at hg
    cases hg
  · rename_i hn
    obtain ⟨_, hanswer, hor⟩ := learnt_get? h.beside.cached h.plain h.current hg
    have hsame : answerAbout (s.run e).2.store table = answerAbout e.store table := by
      by_contra hne
      exact hn (hs table hor hne)
    rw [hb.stores.answerAbout_eq, hsame, ← h.beside.stores.answerAbout_eq, hanswer]

theorem lockstep_start {d : Database} (h : d.store.compiled = []) :
    Lockstep (d.withCache true) (d.withCache false) := by
  have hknown : d.store.known questionText = none := by rw [Store.known, h]; rfl
  have htidy : d.store.Tidy := ⟨by rw [h]; exact List.nodup_nil, by rw [h]; exact Nat.zero_le _⟩
  exact ⟨⟨⟨rfl, rfl, fun _ _ => rfl, .inl hknown, .inl hknown⟩, ⟨htidy, htidy⟩, rfl, rfl⟩,
    (fun _ _ hg => by cases hg), (fun _ _ hg => by cases hg)⟩

theorem Lockstep.drops_eq {d e : Database} (h : Lockstep d e) {s : Step}
    (hd : (s.run d).2.store.Roomy) (he : (s.run e).2.store.Roomy) : s.drops d = s.drops e := by
  rw [drops, drops, (h.step s hd he).1]

section

variable {d : Database} {steps : List Step} (hstart : d.store.compiled = [])
  (hcached : (after steps (d.withCache true)).store.Roomy)
  (hplain : (after steps (d.withCache false)).store.Roomy)

include hstart hcached hplain

theorem roomy_prefix {pre : List Step} (hp : pre <+: steps) :
    (after pre (d.withCache true)).store.Roomy ∧ (after pre (d.withCache false)).store.Roomy := by
  obtain ⟨rest, rfl⟩ := hp
  have htidy := (lockstep_start hstart).beside.tidy
  exact ⟨Nat.lt_of_le_of_lt (after_grows pre rest htidy.1).2 hcached,
    Nat.lt_of_le_of_lt (after_grows pre rest htidy.2).2 hplain⟩

/-- The induction over a run: what is kept has to be current after each operation. -/
theorem lockstep_run
    (hnext : ∀ pre s, pre ++ [s] <+: steps →
      Lockstep (after pre (d.withCache true)) (after pre (d.withCache false)) →
      ∀ table, Current table (after (pre ++ [s]) (d.withCache true))) :
    ∀ pre, pre <+: steps →
      Lockstep (after pre (d.withCache true)) (after pre (d.withCache false)) := by
  intro pre
  induction pre using List.reverseRecOn with
  | nil => exact fun _ => lockstep_start hstart
  | append_singleton pre s ih =>
    intro hp
    have hlock := ih ((List.prefix_append pre [s]).trans hp)
    obtain ⟨hd, he⟩ := roomy_prefix hstart hcached hplain hp
    have hcurrent := hnext pre s hp hlock
    rw [after_snoc] at hd he hcurrent ⊢
    rw [after_snoc]
    obtain ⟨_, hb, hk⟩ := hlock.step s hd he
    exact ⟨hb, hk, hcurrent⟩

theorem lockstep_of_alike (h : AnswersAlike d steps) :
    ∀ pre, pre <+: steps →
      Lockstep (after pre (d.withCache true)) (after pre (d.withCache false)) := by
  refine lockstep_run hstart hcached hplain fun pre s hp hlock table types hg => ?_
  have halike := h (pre ++ [s]) hp table
  obtain ⟨hd, he⟩ := roomy_prefix hstart hcached hplain hp
  rw [after_snoc] at hd he halike hg ⊢
  rw [after_snoc] at halike
  obtain ⟨_, hb, hk⟩ := hlock.step s hd he
  have hc := hk table types hg
  have hkept := get?_uncached table hb.uncached
  rw [types_eq, types_eq, typesOf_kept hc hg, typesOf_asked hc hkept] at halike
  rw [hb.stores.answerAbout_eq]
  exact halike.symm

theorem lockstep_of_drops (h : DropsInTime d steps) :
    ∀ pre, pre <+: steps →
      Lockstep (after pre (d.withCache true)) (after pre (d.withCache false)) := by
  refine lockstep_run hstart hcached hplain fun pre s hp hlock => ?_
  have hdrops := h pre s hp
  obtain ⟨hd, he⟩ := roomy_prefix hstart hcached hplain hp
  rw [after_snoc] at hd he hdrops ⊢
  rw [← hlock.drops_eq hd he] at hdrops
  exact hlock.current_step (hlock.step s hd he).2.1 hdrops

theorem drops_of_alike (h : AnswersAlike d steps) : DropsInTime d steps := by
  intro pre s hp table hor hne
  have hlocks := lockstep_of_alike hstart hcached hplain h
  have hlock := hlocks pre ((List.prefix_append pre [s]).trans hp)
  have hlock' := hlocks _ hp
  obtain ⟨hd, he⟩ := roomy_prefix hstart hcached hplain hp
  rw [after_snoc] at hd he hlock' hne
  rw [after_snoc] at hlock'
  rw [← hlock'.beside.stores.answerAbout_eq, ← hlock.beside.stores.answerAbout_eq] at hne
  rw [← hlock.drops_eq hd he]
  by_contra hn
  have hcolumns := columns_run s (after pre (d.withCache true))
  rw [if_neg hn] at hcolumns
  rcases learnt_or_same hlock.beside.cached hlock.beside.stores.asked.1 hor with ⟨types, hg⟩ | hsame
  · have hbefore := learnt_get? hlock.beside.cached hlock.plain hlock.current hg
    have hafter := hlock'.current table types (by rw [hcolumns]; exact hg)
    exact hne (hafter.trans hbefore.2.1.symm)
  · exact hne hsame

theorem replies_of_lockstep
    (h : ∀ pre, pre <+: steps →
      Lockstep (after pre (d.withCache true)) (after pre (d.withCache false))) :
    replies steps (d.withCache true) = replies steps (d.withCache false) := by
  have hrest (rest : List Step) : ∀ pre, steps = pre ++ rest →
      replies rest (after pre (d.withCache true)) =
        replies rest (after pre (d.withCache false)) := by
    induction rest with
    | nil => exact fun _ _ => rfl
    | cons s rest ih =>
      intro pre hs
      have hp : pre ++ [s] <+: steps := ⟨rest, by simp [hs]⟩
      obtain ⟨hd, he⟩ := roomy_prefix hstart hcached hplain hp
      have hlock := h pre ((List.prefix_append pre [s]).trans hp)
      have hnext := ih (pre ++ [s]) (by simp [hs])
      rw [after_snoc] at hd he hnext
      rw [after_snoc] at hnext
      rw [replies, replies, hnext, (hlock.step s hd he).1]
  exact hrest steps [] rfl

end

/-- The cache is invisible exactly as long as each operation after which the columns of a
kept table are other ones is a definition that stands first in its text and whose text
runs to its end. Then all operations answer alike. -/
theorem cache_invisible_iff {d : Database} {steps : List Step} (hstart : d.store.compiled = [])
    (hcached : (after steps (d.withCache true)).store.Roomy)
    (hplain : (after steps (d.withCache false)).store.Roomy) :
    (AnswersAlike d steps ↔ DropsInTime d steps) ∧
      (DropsInTime d steps →
        replies steps (d.withCache true) = replies steps (d.withCache false)) := by
  have hlocks := lockstep_of_drops hstart hcached hplain
  refine ⟨⟨drops_of_alike hstart hcached hplain, fun h pre hp table => ?_⟩, fun h => ?_⟩
  · rw [types_eq, types_eq]
    exact (hlocks h pre hp).typesOf_eq table
  · exact replies_of_lockstep hstart hcached hplain (hlocks h)

def inMemory : Database :=
  ⟨none, none, .ofConnection (.ofCatalog .empty false) 30000, .ofSetting false, none⟩

def hiddenDrop : List Step :=
  [.query "CREATE TABLE t(a)", .types "t", .query "SELECT 1; DROP TABLE t"]

theorem cache_invisible_iff_hidden :
    (AnswersAlike inMemory hiddenDrop ↔ DropsInTime inMemory hiddenDrop) ∧
      (DropsInTime inMemory hiddenDrop →
        replies hiddenDrop (inMemory.withCache true) =
          replies hiddenDrop (inMemory.withCache false)) :=
  cache_invisible_iff rfl
    (by rw [Store.Roomy]; decide +kernel) (by rw [Store.Roomy]; decide +kernel)

/-- The types of a table that is gone are still answered. -/
theorem dropped_table_kept :
    (types "t" (after hiddenDrop (inMemory.withCache true))).1.toOption =
        some ⟨[("a", .string)]⟩ ∧
      (types "t" (after hiddenDrop (inMemory.withCache false))).1.toOption = none ∧
      ¬AnswersAlike inMemory hiddenDrop := by
  have hcached : (types "t" (after hiddenDrop (inMemory.withCache true))).1.toOption =
      some ⟨[("a", .string)]⟩ := by decide +kernel
  have hplain : (types "t" (after hiddenDrop (inMemory.withCache false))).1.toOption = none := by
    decide +kernel
  refine ⟨hcached, hplain, fun h => ?_⟩
  rw [h hiddenDrop (List.prefix_refl _) "t", hplain] at hcached
  cases hcached

end Database
end Tabular
