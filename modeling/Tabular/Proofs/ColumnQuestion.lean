import Tabular.ColumnCache
import Tabular.Proofs.Questions

/-!
# Asking for the columns of a table

The question is compiled alike on every connection that can read its store, and changes
nothing. Two stores of which one is asked more often than the other go on side by side.
-/

set_option autoImplicit false

namespace Tabular

open Sql (Connection Query Token)

namespace ColumnCache

def questionText : String := (question "").sql

def askedQuery : Query :=
  .mk ⟨false, [], .select false
    [.term (.column none "name" .bare) none "name", .term (.column none "type" .bare) none "type"]
    [⟨.function "pragma_table_info" [.parameter 1], none, .inner, false, none, []⟩] none [] none,
    [], [⟨.column none "cid" .bare, false, none⟩], none, none⟩

def askedTokens : List Token :=
  match Sql.Parameters.empty.number (Sql.tokensOf questionText) with
  | .ok (ts, _) => ts
  | .error _ => []

def asked : Sql.Question where
  sql := questionText
  query := askedQuery
  tokens := askedTokens
  parameters := ⟨1, []⟩
  columns := ["name", "type"]
  trimmed := by rfl
  begins := by rfl
  numbered := by rfl
  read := by rfl
  readable _ := by rfl
  unreadable := by rfl

def Asked (s : Store) : Prop := asked.Known s

def answerAbout (s : Store) (table : String) : Except AccessError ColumnTypes :=
  types table (s.run (question table)).1

def reply (c : Connection) (timeout : Nat) (table : String) : Except AccessError Answer :=
  asked.reply c timeout (question table)

theorem run_question {s : Store} (h : Asked s) (table : String) :
    s.run (question table) = (reply s.connection s.timeout table,
      ⟨s.connection, s.keeping questionText (asked.compiled s.connection).1, s.timeout⟩) :=
  Sql.Question.run_eq (q := asked) h rfl

theorem answerAbout_reply {s : Store} (h : Asked s) (table : String) :
    answerAbout s table = types table (reply s.connection s.timeout table) := by
  rw [answerAbout, run_question h]

end ColumnCache

open ColumnCache

structure Store.Alongside (s t : Store) : Prop where
  connection : s.connection = t.connection
  timeout : s.timeout = t.timeout
  known : ∀ sql, sql ≠ questionText → s.known sql = t.known sql
  asked : Asked s ∧ Asked t

def Store.Roomy (s : Store) : Prop := s.compiled.length < Store.capacity

namespace Store.Alongside

variable {s t : Store}

theorem prepared_eq (h : Alongside s t) (sql : String) :
    prepared s.connection (s.known sql) sql = prepared t.connection (t.known sql) sql := by
  have hs : prepared s.connection (s.known questionText) questionText =
      ColumnCache.asked.compiled s.connection :=
    Sql.Question.prepared_eq (q := ColumnCache.asked) s.connection h.asked.1
  have ht : prepared t.connection (t.known questionText) questionText =
      ColumnCache.asked.compiled t.connection :=
    Sql.Question.prepared_eq (q := ColumnCache.asked) t.connection h.asked.2
  by_cases hq : sql = questionText
  · rw [hq, hs, ht, h.connection]
  · rw [h.connection, h.known sql hq]

/-- A statement does the same on both. -/
theorem run (h : Alongside s t) (statement : Statement) (hs : (s.run statement).2.Roomy)
    (ht : (t.run statement).2.Roomy) :
    (s.run statement).1 = (t.run statement).1 ∧
      Alongside (s.run statement).2 (t.run statement).2 := by
  have hasked : Asked (s.run statement).2 ∧ Asked (t.run statement).2 :=
    ⟨h.asked.1.run statement, h.asked.2.run statement⟩
  rw [run_eq] at hs ht hasked
  rw [run_eq, run_eq, h.prepared_eq]
  rw [h.prepared_eq] at hs hasked
  rw [run_eq] at hasked
  generalize prepared t.connection (t.known statement.sql) statement.sql = p at hs ht hasked ⊢
  rw [h.connection, h.timeout] at hs hasked ⊢
  refine ⟨rfl, rfl, rfl, fun sql hq => ?_, hasked⟩
  by_cases hsql : sql = statement.sql
  · subst hsql
    rw [known_keeping, known_keeping]
  · rw [known_keeping_of_ne _ _ hs hsql, known_keeping_of_ne _ _ ht hsql, h.known sql hq]

theorem answerAbout_eq (h : Alongside s t) (table : String) :
    answerAbout s table = answerAbout t table := by
  rw [answerAbout_reply h.asked.1, answerAbout_reply h.asked.2, h.connection, h.timeout]

/-- The one that is not asked stays beside the other. -/
theorem question (h : Alongside s t) (table : String) (ht : (t.run (question table)).2.Roomy) :
    Alongside s (t.run (ColumnCache.question table)).2 := by
  rw [run_question h.asked.2] at ht ⊢
  refine ⟨h.connection, h.timeout, fun sql hq => ?_, h.asked.1, .inr (known_keeping _ _)⟩
  rw [known_keeping_of_ne _ _ ht hq, h.known sql hq]

end Store.Alongside
end Tabular
