import Tabular.Json.Printer
import Tabular.Proofs.ShownRows

/-!
# Going through an answer

The rows of an answer are taken one by one, and from the first again after it is rewound.
Whatever is asked of it, and however often, it keeps all of its rows.
-/

set_option autoImplicit false

namespace Tabular

namespace Answer

inductive Call where
  | next
  | rewind
  | rows
  | count
  | columns

inductive Reply where
  | row (row : Option NamedRow)
  | done
  | rows (rows : List NamedRow)
  | count (n : Nat)
  | names (columns : List String)

def Call.asked (n : Nat) : Call → Nat
  | next => n + 1
  | rewind => 0
  | rows | count | columns => n

def asked (calls : List Call) : Nat := calls.foldl Call.asked 0

def respond (a : Answer) : Call → Reply × Answer
  | .next => (.row a.next.1, a.next.2)
  | .rewind => (.done, a.rewind)
  | .rows => (.rows a.rows, a)
  | .count => (.count a.rowCount, a)
  | .columns => (.names a.columns, a)

def converse (a : Answer) : List Call → List Reply × Answer
  | [] => ([], a)
  | call :: calls =>
    let (reply, b) := a.respond call
    let (replies, b) := b.converse calls
    (reply :: replies, b)

/-- The reply that is due when the next row was asked for so often: a row at its number, as
long as there are rows, and all else as if no row had been taken. -/
def due (a : Answer) (n : Nat) : Call → Reply
  | .next => .row a.rows[n]?
  | .rewind => .done
  | .rows => .rows a.rows
  | .count => .count a.rows.length
  | .columns => .names a.columns

def past (a : Answer) (n : Nat) : Answer := { a with position := min n a.rows.length }

theorem past_zero {a : Answer} (h : a.position = 0) : a.past 0 = a := by
  rw [past, Nat.zero_min, ← h]

theorem next_past (a : Answer) (n : Nat) : (a.past n).next = (a.rows[n]?, a.past (n + 1)) := by
  rw [next, past, past]
  dsimp only
  by_cases hn : n < a.rows.length
  · have hposition : min n a.rows.length = n := Nat.min_eq_left (Nat.le_of_lt hn)
    have hnext : min (n + 1) a.rows.length = n + 1 := Nat.min_eq_left hn
    rw [hposition, hnext, List.getElem?_eq_getElem hn]
  · have hposition : min n a.rows.length = a.rows.length := Nat.min_eq_right (Nat.le_of_not_lt hn)
    have hnext : min (n + 1) a.rows.length = a.rows.length := Nat.min_eq_right (by omega)
    have hnone : a.rows[n]? = none := List.getElem?_eq_none (Nat.le_of_not_lt hn)
    rw [hposition, hnext, hnone, List.getElem?_eq_none (Nat.le_refl _)]

/-- One call moves the answer on, starts it again or leaves it where it is. -/
theorem respond_past (a : Answer) (n : Nat) (call : Call) :
    (a.past n).respond call = (a.due n call, a.past (call.asked n)) := by
  cases call with
  | next => rw [respond, next_past, due, Call.asked]
  | rewind =>
    rw [respond, rewind, due, Call.asked, past, past, Nat.zero_min]
  | rows | count | columns => rfl

theorem converse_past (a : Answer) (n : Nat) (calls : List Call) :
    (a.past n).converse calls =
      (calls.mapIdx fun k call => a.due ((calls.take k).foldl Call.asked n) call,
        a.past (calls.foldl Call.asked n)) := by
  induction calls generalizing n with
  | nil => rfl
  | cons call calls ih =>
    rw [converse, respond_past]
    dsimp only
    rw [ih, List.mapIdx_cons]
    rfl

end Answer

open Store

/-- The rows of an answer are those that the statements yield, each shown under the names of its
columns, and they can be gone through any number of times: at any time the replies are as
they are due, and nothing is used up. -/
theorem answers_faithful {s : Store} {statement : Statement} {a : Answer}
    (h : (s.run statement).1 = .ok a) :
    (∃ ps bound fetched c,
      s.verdict statement.sql = .ok ps ∧ Converted statement.typed bound ∧
      Fetches bound s.patience s.connection 0 ps fetched c ∧ Presents ps fetched a ∧
      (∀ f ∈ fetched, f.statement.Current f.connection → f.Full) ∧
      (s.Fresh statement.sql → ∀ p ∈ ps, p.Current s.connection) ∧
      ∀ p, ps = [p] → (∀ row ∈ a.rows, row.keys = p.columns.eraseDups) ∧
        (a.rows ≠ [] → a.columns = p.columns.eraseDups)) ∧
      ∀ calls : List Answer.Call,
        (a.converse calls).1 =
            (calls.mapIdx fun k call => a.due (Answer.asked (calls.take k)) call) ∧
          (a.converse calls).2 = a.past (Answer.asked calls) := by
  obtain ⟨hstart, ps, bound, fetched, c, hps, hconverted, hfetches, hpresents⟩ := run_presents h
  refine ⟨⟨ps, bound, fetched, c, hps, hconverted, hfetches, hpresents, hfetches.full,
    fun hfresh => hfresh.current hps, ?_⟩, ?_⟩
  · rintro p rfl
    exact hpresents.columns fun f hf => (hfetches.single f hf).2
  · intro calls
    have hconverse := a.converse_past 0 calls
    rw [Answer.past_zero hstart] at hconverse
    rw [hconverse]
    exact ⟨rfl, rfl⟩

def twiceNamed : Statement :=
  ⟨"SELECT 1 AS a, x'0AFF' AS b, -7 AS c, NULL AS a UNION ALL SELECT 2, 'v', 3, 'w'", [], []⟩

def unused : Store := .ofConnection (.ofCatalog .empty false) 30000

theorem answers_faithful_twiceNamed :
    ∃ a, (unused.run twiceNamed).1 = .ok a ∧
      a.rows.map (fun row => row.toJson.toCompact) =
        ["\x7b\"a\":null,\"b\":\"0aff\",\"c\":-7\x7d",
          "\x7b\"a\":\"w\",\"b\":\"v\",\"c\":3\x7d"] ∧
      (∀ row ∈ a.rows, row.keys = ["a", "b", "c"]) ∧ a.columns = ["a", "b", "c"] ∧
      (a.converse [.next, .next, .next, .columns, .rewind, .next]).1 =
        [.row a.rows[0]?, .row a.rows[1]?, .row none, .names ["a", "b", "c"], .done,
          .row a.rows[0]?] := by
  have hok : (unused.run twiceNamed).1.toOption.map
      (fun a => a.rows.map fun row => row.toJson.toCompact) =
        some ["\x7b\"a\":null,\"b\":\"0aff\",\"c\":-7\x7d",
          "\x7b\"a\":\"w\",\"b\":\"v\",\"c\":3\x7d"] := by decide +kernel
  have hcompiled : (unused.verdict twiceNamed.sql).toOption.map (List.map Sql.Prepared.columns) =
      some [["a", "b", "c", "a"]] := by decide +kernel
  cases hrun : (unused.run twiceNamed).1 with
  | error e =>
    rw [hrun] at hok
    cases hok
  | ok a =>
    rw [hrun] at hok
    have hrows := Option.some.inj hok
    have htwo : a.rows.length = 2 := by
      have hlength := congrArg List.length hrows
      rwa [List.length_map] at hlength
    obtain ⟨⟨ps, _, _, _, hps, -, -, -, -, -, hsingle⟩, hcalls⟩ := answers_faithful hrun
    rw [hps] at hcompiled
    have hcolumns : ps.map Sql.Prepared.columns = [["a", "b", "c", "a"]] :=
      Option.some.inj hcompiled
    obtain ⟨p, rfl, hp⟩ := List.map_eq_singleton_iff.1 hcolumns
    obtain ⟨hkeys, hnames⟩ := hsingle p rfl
    have hdistinct : p.columns.eraseDups = ["a", "b", "c"] := by
      rw [hp]
      decide
    rw [hdistinct] at hkeys hnames
    have hsome : a.rows ≠ [] := List.ne_nil_of_length_eq_add_one htwo
    refine ⟨a, rfl, hrows, hkeys, hnames hsome, ?_⟩
    have hend : a.rows[2]? = none := List.getElem?_eq_none (Nat.le_of_eq htwo)
    rw [(hcalls _).1, ← hnames hsome, ← hend]
    rfl

end Tabular
