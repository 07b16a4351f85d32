import Mathlib.Data.List.Forall2
import Tabular.ColumnCache
import Tabular.Proofs.Results

/-!
# The types kept for tables

The types of a table are those that an answer describes with all of its rows, or there are
none. Whatever is asked for and dropped, one after another, and whatever is answered in
between, the types kept for a table are those that were found for it since they were dropped
last.
-/

set_option autoImplicit false

namespace Tabular.ColumnCache

structure Describes (row : NamedRow) (column : String × ColumnType) : Prop where
  name : row.get? "name" = some (.text column.1)
  type : column.2 = .ofDeclared (((row.get? "type").bind Cell.text?).getD "")

def Complete (answer : Except AccessError Answer) (types : ColumnTypes) : Prop :=
  ∃ a, answer = .ok a ∧ a.rows ≠ [] ∧ List.Forall₂ Describes a.rows types.columns

inductive Fruitless : Except AccessError Answer → String → Prop
  | failed (e : AccessError) : Fruitless (.error e) e.message
  | nameless {a : Answer} {row : NamedRow} (h : row ∈ a.rows)
      (hname : ∀ name, row.get? "name" ≠ some (.text name)) :
      Fruitless (.ok a) "column without a name"
  | empty {a : Answer} (h : a.rows = []) : Fruitless (.ok a) "no columns found"

variable {table : String} {answer : Except AccessError Answer} {ts : ColumnTypes} {e : AccessError}

theorem text?_eq_some_iff {cell : Option Cell} {s : String} :
    cell.bind Cell.text? = some s ↔ cell = some (.text s) := by
  cases cell with
  | none => simp
  | some cell => cases cell <;> simp [Cell.text?]

theorem column_ok_iff {row : NamedRow} {entry : String × ColumnType} :
    column table row = .ok entry ↔ Describes row entry := by
  obtain ⟨name, type⟩ := entry
  rw [column]
  constructor
  · intro h
    split at h
    · cases h
    · next found hfound =>
      obtain ⟨rfl, rfl⟩ := Prod.mk.inj (Except.ok.inj h)
      exact ⟨text?_eq_some_iff.1 hfound, rfl⟩
  · rintro ⟨hname, rfl⟩
    rw [text?_eq_some_iff.2 hname]

theorem column_error_iff {row : NamedRow} :
    column table row = .error e ↔ (∀ name, row.get? "name" ≠ some (.text name)) ∧
      e = .schema table "column without a name" := by
  rw [column]
  cases hname : (row.get? "name").bind Cell.text? with
  | none =>
    have hnone : ∀ name, row.get? "name" ≠ some (.text name) := by
      intro name h
      cases hname.symm.trans (text?_eq_some_iff.2 h)
    simp [hnone, eq_comm]
  | some name => simp [text?_eq_some_iff.1 hname]

theorem mapM_column_iff {rows : List NamedRow} {columns : List (String × ColumnType)} :
    rows.mapM (column table) = .ok columns ↔ List.Forall₂ Describes rows columns := by
  simp only [mapM_eq_ok, column_ok_iff]

theorem named_of_described {rows : List NamedRow} {columns : List (String × ColumnType)}
    (h : List.Forall₂ Describes rows columns) :
    ∀ row ∈ rows, ∃ name, row.get? "name" = some (.text name) := by
  induction h with
  | nil => simp
  | cons hrow _ ih => exact List.forall_mem_cons.2 ⟨⟨_, hrow.name⟩, ih⟩

theorem types_ok_iff : types table answer = .ok ts ↔ Complete answer ts := by
  cases answer with
  | error e => simp [types, Complete]
  | ok a =>
    have hrows {columns : List (String × ColumnType)} (h : List.Forall₂ Describes a.rows columns) :
        columns.isEmpty = true ↔ a.rows = [] := by
      rw [List.isEmpty_iff, ← List.length_eq_zero_iff, ← h.length_eq, List.length_eq_zero_iff]
    rw [types, bind_eq_ok]
    constructor
    · rintro ⟨columns, hcolumns, h⟩
      have hall := mapM_column_iff.1 hcolumns
      split at h
      · cases h
      · next hsome =>
        obtain rfl := Except.ok.inj h
        exact ⟨a, rfl, mt (hrows hall).2 hsome, hall⟩
    · rintro ⟨_, ha, hsome, hall⟩
      obtain rfl := Except.ok.inj ha
      exact ⟨ts.columns, mapM_column_iff.2 hall, if_neg (mt (hrows hall).1 hsome)⟩

theorem types_error_iff : types table answer = .error e ↔
    ∃ reason, Fruitless answer reason ∧ e = .schema table reason := by
  constructor
  · intro h
    cases answer with
    | error e' => exact ⟨_, .failed e', (Except.error.inj h).symm⟩
    | ok a =>
      rcases bind_eq_error.1 h with h | ⟨columns, hcolumns, h⟩
      · obtain ⟨row, hrow, hcolumn⟩ := mapM_error h
        obtain ⟨hname, rfl⟩ := column_error_iff.1 hcolumn
        exact ⟨_, .nameless hrow hname, rfl⟩
      · split at h
        · next hempty =>
          have hall := mapM_column_iff.1 hcolumns
          rw [List.isEmpty_iff.1 hempty] at hall
          exact ⟨_, .empty (List.forall₂_nil_right_iff.1 hall), (Except.error.inj h).symm⟩
        · cases h
  · rintro ⟨reason, hreason, rfl⟩
    cases hreason with
    | failed e => rfl
    | @nameless a row hrow hname =>
      rw [types, bind_eq_error]
      cases hcolumns : a.rows.mapM (column table) with
      | error e =>
        obtain ⟨_, _, hcolumn⟩ := mapM_error hcolumns
        obtain ⟨-, rfl⟩ := column_error_iff.1 hcolumn
        exact .inl rfl
      | ok columns =>
        obtain ⟨name, hnamed⟩ := named_of_described (mapM_column_iff.1 hcolumns) row hrow
        exact absurd hnamed (hname name)
    | empty h =>
      rw [types, h]
      rfl

variable {σ : Type} {ask : σ → Statement → Except AccessError Answer × σ} {s : σ} {c : ColumnCache}

def learn (c : ColumnCache) (table : String) : Except AccessError ColumnTypes → ColumnCache
  | .ok types => c.put table types
  | .error _ => c

theorem resolve_hit (h : c.get? table = some ts) : c.resolve ask s table = (.ok ts, s, c) := by
  rw [resolve, h]

theorem resolve_asking (h : c.get? table = none) :
    c.resolve ask s table =
      (types table (ask s (question table)).1, (ask s (question table)).2,
        c.learn table (types table (ask s (question table)).1)) := by
  rw [resolve, h]
  rcases ask s (question table) with ⟨answer, s'⟩
  simp only
  cases types table answer <;> rfl

theorem get?_put (h : c.kept.isSome) (types : ColumnTypes) (other : String) :
    (c.put table types).get? other = if other = table then some types else c.get? other := by
  obtain ⟨kept, hk⟩ := Option.isSome_iff_exists.1 h
  have hfind : (kept.filter fun e => e.1 ≠ table).find? (fun e => e.1 = other) =
      if other = table then none else kept.find? fun e => e.1 = other := by
    rw [List.find?_filter]
    split
    · rename_i ho
      refine List.find?_eq_none.2 fun e _ => ?_
      simp [ho]
    · rename_i ho
      congr 1
      funext e
      by_cases he : e.1 = other
      · simp [he, ho]
      · simp [he]
  simp only [get?, put, hk, Option.map_some, Option.getD_some, List.find?_cons, hfind]
  by_cases ho : other = table
  · simp [ho]
  · simp [ho, Ne.symm ho]

theorem put_uncached (h : c.kept = none) (types : ColumnTypes) : c.put table types = c := by
  obtain ⟨kept⟩ := c
  obtain rfl : kept = none := h
  rfl

theorem get?_uncached (table : String) (h : c.kept = none) : c.get? table = none := by
  rw [get?, h]
  rfl

theorem get?_clear (c : ColumnCache) : c.clear.get? table = none := by
  obtain ⟨_ | kept⟩ := c <;> rfl

/-- After types were asked for, those kept are the ones kept before and the ones just found. -/
theorem kept_resolve (h : c.kept.isSome) (asked : String) :
    (c.resolve ask s asked).2.2.kept.isSome ∧
      ∀ table ts, (c.resolve ask s asked).2.2.get? table = some ts ↔
        (table = asked ∧ (c.resolve ask s asked).1 = .ok ts ∧
          Complete (ask s (question asked)).1 ts) ∨ c.get? table = some ts := by
  cases hget : c.get? asked with
  | some known =>
    rw [resolve_hit hget]
    refine ⟨h, fun table ts => ⟨.inr, ?_⟩⟩
    rintro (⟨rfl, hts, -⟩ | hkept)
    · rw [hget, Except.ok.inj hts]
    · exact hkept
  | none =>
    rw [resolve_asking hget]
    cases hfound : types asked (ask s (question asked)).1 with
    | error e => simp [learn, h]
    | ok found =>
      have hcomplete := types_ok_iff.1 hfound
      refine ⟨by simpa [learn, put] using h, fun table ts => ?_⟩
      rw [learn, get?_put h]
      by_cases ht : table = asked
      · subst ht
        rw [if_pos rfl, hget, Option.some_inj, Except.ok.injEq]
        constructor
        · rintro rfl
          exact .inl ⟨rfl, rfl, hcomplete⟩
        · rintro (⟨-, hts, -⟩ | hnone)
          · exact hts
          · cases hnone
      · simp [ht]

inductive Event where
  | resolved (table : String) (answer : Except AccessError Answer)
      (result : Except AccessError ColumnTypes)
  | cleared

def Event.isCleared : Event → Bool
  | .cleared => true
  | .resolved .. => false

/-- What happened to a cache that was empty at first, the latest first, and what the source and
the cache are after it. The source may be changed by anything else at any time. -/
inductive History (ask : σ → Statement → Except AccessError Answer × σ) :
    List Event → σ → ColumnCache → Prop
  | start (s : σ) : History ask [] s (.ofSetting true)
  | changed {past : List Event} {s : σ} {c : ColumnCache} (s' : σ) (h : History ask past s c) :
      History ask past s' c
  | resolved {past : List Event} {s : σ} {c : ColumnCache} (table : String)
      (h : History ask past s c) :
      History ask
        (.resolved table (ask s (question table)).1 (c.resolve ask s table).1 :: past)
        (c.resolve ask s table).2.1 (c.resolve ask s table).2.2
  | cleared {past : List Event} {s : σ} {c : ColumnCache} (h : History ask past s c) :
      History ask (.cleared :: past) s c.clear

def Loaded (past : List Event) (table : String) (ts : ColumnTypes) : Prop :=
  ∃ answer, .resolved table answer (.ok ts) ∈ past.takeWhile (fun e => !e.isCleared) ∧
    Complete answer ts

section

variable {past : List Event} {other : String} {result : Except AccessError ColumnTypes}

theorem loaded_resolved : Loaded (.resolved other answer result :: past) table ts ↔
    (table = other ∧ result = .ok ts ∧ Complete answer ts) ∨ Loaded past table ts := by
  have hrecent : (Event.resolved other answer result :: past).takeWhile (fun e => !e.isCleared) =
      .resolved other answer result :: past.takeWhile fun e => !e.isCleared := rfl
  simp only [Loaded, hrecent, List.mem_cons, Event.resolved.injEq]
  grind

theorem not_loaded_cleared : ¬Loaded (.cleared :: past) table ts := by
  rintro ⟨answer, h, -⟩
  cases h

/-- The types kept are those that were loaded. -/
theorem kept_iff_loaded (h : History ask past s c) :
    c.kept.isSome ∧ ∀ table ts, c.get? table = some ts ↔ Loaded past table ts := by
  induction h with
  | start s => exact ⟨rfl, fun table ts => by simp [get?, ofSetting, Loaded]⟩
  | changed s' _ ih => exact ih
  | @resolved past s c asked _ ih =>
    have hasked := @kept_resolve σ ask s c ih.1 asked
    refine ⟨hasked.1, fun table ts => ?_⟩
    rw [hasked.2, loaded_resolved, ih.2]
  | @cleared past s c _ ih =>
    refine ⟨by simpa [clear] using ih.1, fun table ts => ?_⟩
    rw [get?_clear]
    exact iff_of_false (nomatch ·) not_loaded_cleared

end

/-- Types that were loaded since what was kept was dropped last are given again as they were.
Else the types are those that a complete answer tells with each of its rows, and then they are
kept; and an answer that tells none is an error for the table, and nothing is kept. -/
theorem resolve_all_or_nothing {past : List Event} (h : History ask past s c) (table : String) :
    ∃ result after kept, c.resolve ask s table = (result, after, kept) ∧
      (∀ ts, Loaded past table ts → result = .ok ts ∧ after = s ∧ kept = c) ∧
      ((∀ ts, ¬Loaded past table ts) →
        (∀ ts, result = .ok ts ↔ Complete (ask s (question table)).1 ts) ∧
        ∀ e, result = .error e ↔
          ∃ reason, Fruitless (ask s (question table)).1 reason ∧ e = .schema table reason) ∧
      (∀ ts, result = .ok ts → kept.get? table = some ts ∧
        ∀ other, other ≠ table → kept.get? other = c.get? other) ∧
      ∀ e, result = .error e → kept = c := by
  obtain ⟨hcached, hkept⟩ := kept_iff_loaded h
  cases hget : c.get? table with
  | some known =>
    refine ⟨_, _, _, resolve_hit hget, fun ts hts => ?_, fun hnone => ?_, fun ts hts => ?_, ?_⟩
    · rw [(hkept table ts).2 hts] at hget
      exact ⟨congrArg _ (Option.some.inj hget).symm, rfl, rfl⟩
    · exact absurd ((hkept table known).1 hget) (hnone known)
    · obtain rfl := Except.ok.inj hts
      exact ⟨hget, fun _ _ => rfl⟩
    · exact fun e he => nomatch he
  | none =>
    refine ⟨_, _, _, resolve_asking hget, fun ts hts => ?_, fun _ => ?_, fun ts hts => ?_,
      fun e he => ?_⟩
    · cases hget.symm.trans ((hkept table ts).2 hts)
    · exact ⟨fun ts => types_ok_iff, fun e => types_error_iff⟩
    · rw [hts, learn]
      refine ⟨?_, fun other hother => ?_⟩
      · rw [get?_put hcached, if_pos rfl]
      · rw [get?_put hcached, if_neg hother]
    · rw [he, learn]

def held (s : Except AccessError Answer) (_ : Statement) :
    Except AccessError Answer × Except AccessError Answer := (s, s)

def wholeAnswer : Answer := .ofRows [[("name", .text "a"), ("type", .text "INT")]]

def brokenAnswer : Answer :=
  .ofRows [[("name", .text "a"), ("type", .text "INT")], [("name", .null), ("type", .text "")]]

def oneColumn : ColumnTypes := ⟨[("a", .integer)]⟩

def askedOnce : List Event := [.resolved "t" (.ok wholeAnswer) (.ok oneColumn)]

def keptOnce : ColumnCache := (ColumnCache.ofSetting true).put "t" oneColumn

theorem resolve_all_or_nothing_broken :
    History held askedOnce (.ok brokenAnswer) keptOnce ∧
      Loaded askedOnce "t" oneColumn ∧ (∀ ts, ¬Loaded askedOnce "u" ts) ∧
      keptOnce.resolve held (.ok brokenAnswer) "t" = (.ok oneColumn, .ok brokenAnswer, keptOnce) ∧
      (keptOnce.resolve held (.ok brokenAnswer) "u").1 =
        .error (.schema "u" "column without a name") ∧
      (keptOnce.resolve held (.ok brokenAnswer) "u").2.2 = keptOnce := by
  have hempty : History held [] (.ok wholeAnswer) (.ofSetting true) := .start _
  have h : History held askedOnce (.ok brokenAnswer) keptOnce := .changed _ (hempty.resolved "t")
  have hloaded : Loaded askedOnce "t" oneColumn :=
    ⟨.ok wholeAnswer, List.mem_cons_self, wholeAnswer, rfl, by simp [wholeAnswer, Answer.ofRows],
      .cons ⟨rfl, rfl⟩ .nil⟩
  have hother : ∀ ts, ¬Loaded askedOnce "u" ts := by
    intro ts hts
    rcases loaded_resolved.1 hts with ⟨hname, -⟩ | ⟨_, hmem, -⟩
    · exact absurd hname (by decide)
    · cases hmem
  obtain ⟨_, _, _, ht, hserved, -⟩ := resolve_all_or_nothing h "t"
  obtain ⟨_, _, _, hu, -, hasked, -, hfailed⟩ := resolve_all_or_nothing h "u"
  obtain ⟨rfl, rfl, rfl⟩ := hserved _ hloaded
  have hnameless : ∀ name, Record.get? [("name", Cell.null), ("type", .text "")] "name" ≠
      some (.text name) := by simp [Record.get?]
  have hbroken : Fruitless (.ok brokenAnswer) "column without a name" :=
    .nameless (.tail _ List.mem_cons_self) hnameless
  have herror := ((hasked hother).2 _).2 ⟨_, hbroken, rfl⟩
  obtain rfl := hfailed _ herror
  rw [hu, herror]
  exact ⟨h, hloaded, hother, ht, rfl, rfl⟩

end Tabular.ColumnCache
