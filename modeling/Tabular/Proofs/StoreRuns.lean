import Mathlib.Data.List.Basic
import Tabular.Store

/-!
# Runs of a store

What a statement does depends on the connection, on the time allowed and on what is
known of its text from before. Texts that are compiled stay known, as long as there
are not too many of them.
-/

set_option autoImplicit false

namespace Tabular

namespace Sql.Connection

def columnsHere (c : Connection) (i : Instruction) : Except Fault (List String) :=
  if c.damaged then columnsOfDamaged i else columnsOf c.catalog i

def ended : List Token := [⟨[], [], .finish⟩]

variable {sql : String} {ts : List Token} {ps : Parameters} {i : Instruction} {e : Fault}

theorem prepareNext_of_uncounted (c : Connection)
    (hd : (tokensOf sql).dropWhile (fun t => t.is ";") = tokensOf sql)
    (hn : Parameters.empty.number (tokensOf sql) = .error e) :
    c.prepareNext (tokensOf sql) = .error e := by
  rw [prepareNext, hd, hn]
  rfl

theorem prepareNext_of_unread (c : Connection)
    (hd : (tokensOf sql).dropWhile (fun t => t.is ";") = tokensOf sql)
    (hn : Parameters.empty.number (tokensOf sql) = .ok (ts, ps))
    (hr : Reader.next ts = .error e) : c.prepareNext (tokensOf sql) = .error e := by
  rw [prepareNext, hd, hn]
  simp only [bind, Except.bind, hr]

theorem prepareNext_of_read (c : Connection)
    (hd : (tokensOf sql).dropWhile (fun t => t.is ";") = tokensOf sql)
    (hn : Parameters.empty.number (tokensOf sql) = .ok (ts, ps))
    (hr : Reader.next ts = .ok (some i, ended)) :
    c.prepareNext (tokensOf sql) =
      (c.columnsHere i).map fun columns => (some ⟨i, ps, columns⟩, ended) := by
  rw [prepareNext, hd, hn]
  simp only [bind, Except.bind, hr, columnsHere]
  cases c.damaged with
  | true => cases columnsOfDamaged i <;> rfl
  | false => cases columnsOf c.catalog i <;> rfl

theorem prepareNext_ended (c : Connection) : c.prepareNext ended = .ok (none, ended) := rfl

theorem prepare_of_fault {c : Connection} (h : c.prepareNext (tokensOf sql) = .error e) :
    c.prepare (.ofText sql) = (.ofText sql, some e) := by
  rw [prepare, prepareMore]
  simp only [Compiled.ofText, h]

/-- A text of one statement is compiled as a whole or not at all. -/
theorem prepare_statement (c : Connection)
    (hd : (tokensOf sql).dropWhile (fun t => t.is ";") = tokensOf sql)
    (hn : Parameters.empty.number (tokensOf sql) = .ok (ts, ps))
    (hr : Reader.next ts = .ok (some i, ended)) :
    c.prepare (.ofText sql) =
      match c.columnsHere i with
      | .ok columns => (⟨[⟨i, ps, columns⟩], ended⟩, none)
      | .error e => (.ofText sql, some e) := by
  have hnext := prepareNext_of_read c hd hn hr
  obtain ⟨n, hl⟩ : ∃ n, (tokensOf sql).length = n + 1 := by
    cases hts : tokensOf sql with
    | nil =>
      rw [hts] at hn
      cases hn
      cases hr
    | cons t us => exact ⟨us.length, rfl⟩
  rw [prepare, Compiled.ofText, hl, prepareMore, hnext]
  cases c.columnsHere i with
  | error e => rfl
  | ok columns =>
    simp only [Except.map]
    rw [prepareMore, prepareNext_ended]
    rfl

theorem prepare_ended (c : Connection) (p : Prepared) :
    c.prepare ⟨[p], ended⟩ = (⟨[p], ended⟩, none) := rfl

theorem failed_damaged (c : Connection) (e : Fault) : (c.failed e).1.damaged = c.damaged := by
  unfold failed
  split <;> rfl

theorem settled_damaged (c : Connection) (p : Progress) : (c.settled p).1.damaged = c.damaged := by
  unfold settled
  split
  · split <;> rfl
  · split
    · rfl
    · rfl
    · exact failed_damaged _ _

theorem changed_damaged (c : Connection) (r : Except Fault Progress) :
    (c.changed r).1.damaged = c.damaged := by
  cases r with
  | ok p => exact settled_damaged c p
  | error e => exact failed_damaged _ _

theorem defined_damaged (c : Connection) (r : Except Fault Catalog) :
    (c.defined r).1.damaged = c.damaged := by
  cases r with
  | ok catalog => rfl
  | error e => exact failed_damaged _ _

theorem commit_damaged (c : Connection) : c.commit.1.damaged = c.damaged := by
  unfold commit
  split
  · rfl
  · split <;> rfl

theorem release_damaged (c : Connection) (name : String) :
    (c.release name).1.damaged = c.damaged := by
  unfold release
  split
  · rfl
  · split
    · rfl
    · split
      · exact commit_damaged c
      · rfl

theorem rollbackTo_damaged (c : Connection) (name : String) :
    (c.rollbackTo name).1.damaged = c.damaged := by
  unfold rollbackTo
  split
  · rfl
  · split <;> rfl

theorem pragma_damaged (c : Connection) (name : String) (argument : Option String) :
    (c.pragma name argument).1.damaged = c.damaged := by
  unfold pragma
  split <;> first | rfl | split <;> rfl

/-- No statement mends a store or damages it. -/
theorem run_damaged (c : Connection) (patience : Nat) (values : List Value) (i : Instruction) :
    (c.run patience values i).1.damaged = c.damaged := by
  unfold run
  split
  · rfl
  · cases i with
    | query q => dsimp only; split <;> rfl
    | insert | update | delete => exact changed_damaged c _
    | createTable | createTableAs | createIndex | createView | drop | alter =>
      exact defined_damaged c _
    | begin => unfold begin; dsimp only; split <;> rfl
    | commit => exact commit_damaged c
    | rollback => unfold rollback; dsimp only; split <;> rfl
    | savepoint name => rfl
    | release name => exact release_damaged c name
    | rollbackTo name => exact rollbackTo_damaged c name
    | pragma name argument => exact pragma_damaged c name argument
    | maintain => rfl
    | vacuum => dsimp only; split <;> rfl

end Sql.Connection

namespace Store

open Sql (Connection Fault Prepared)

def known (s : Store) (sql : String) : Option Connection.Compiled :=
  (s.compiled.find? fun e => e.1 = sql).map Prod.snd

def prepared (c : Connection) (known : Option Connection.Compiled) (sql : String) :
    Connection.Compiled × Option Fault :=
  c.prepare (known.getD (.ofText (Text.trimmed sql)))

def ready (p : Connection.Compiled × Option Fault) : Except Fault (List Prepared) :=
  match p.2 with
  | some e => .error e
  | none => .ok p.1.ready

def outcome (c : Connection) (timeout : Nat) (ps : Except Fault (List Prepared))
    (statement : Statement) : Except AccessError Answer × Connection :=
  let s := ofConnection c timeout
  match ps with
  | .error e => (.error (s.timedOut (.sql e) .prepare), c)
  | .ok ps =>
    match bindings ps statement with
    | .error e => (.error e, c)
    | .ok values =>
      match runAll values s.patience c 0 ⟨[], 0⟩ ps with
      | (.error e, c) => (.error (s.timedOut e .exec), c)
      | (.ok ran, c) => (.ok (answer ps ran c), c)

def keeping (s : Store) (sql : String) (done : Connection.Compiled) :
    List (String × Connection.Compiled) :=
  (sql, done) :: (s.compiled.filter fun e => e.1 ≠ sql).take (capacity - 1)

theorem compile_eq (s : Store) (sql : String) :
    s.compile sql = (ready (prepared s.connection (s.known sql) sql),
      { s with compiled := s.keeping sql (prepared s.connection (s.known sql) sql).1 }) := by
  rw [compile]
  change (match (prepared s.connection (s.known sql) sql).2 with
    | some e => _
    | none => _) = _
  rw [ready]
  cases (prepared s.connection (s.known sql) sql).2 <;> rfl

/-- A run in terms of what is known of its text. -/
theorem run_eq (s : Store) (statement : Statement) :
    let p := prepared s.connection (s.known statement.sql) statement.sql
    let o := outcome s.connection s.timeout (ready p) statement
    s.run statement = (o.1, ⟨o.2, s.keeping statement.sql p.1, s.timeout⟩) := by
  intro p o
  rw [run, compile_eq]
  simp only [o, outcome]
  cases ready p with
  | error e => rfl
  | ok ps =>
    cases hb : bindings ps statement with
    | error e => simp only [p, hb]
    | ok values =>
      simp only [hb]
      have hp : (⟨s.connection, s.keeping statement.sql p.1, s.timeout⟩ : Store).patience =
        (ofConnection s.connection s.timeout).patience := rfl
      rw [hp]
      rcases runAll values (ofConnection s.connection s.timeout).patience s.connection 0 ⟨[], 0⟩
        ps with ⟨_ | _, c⟩ <;> rfl

theorem runAll_damaged (values : List Sql.Value) (patience : Nat) (ps : List Prepared)
    (c : Connection) (used : Nat) (ran : Ran) :
    (runAll values patience c used ran ps).2.damaged = c.damaged := by
  induction ps generalizing c used ran with
  | nil => rfl
  | cons p ps ih =>
    rw [runAll]
    split
    · rfl
    · rename_i bound used' _
      have hrun := c.run_damaged patience bound p.instruction
      generalize c.run patience bound p.instruction = o at hrun ⊢
      obtain ⟨c', e | rows⟩ := o
      · exact hrun
      · exact (ih _ _ _).trans hrun

theorem run_damaged (s : Store) (statement : Statement) :
    (s.run statement).2.connection.damaged = s.connection.damaged := by
  rw [run_eq]
  simp only [outcome]
  split
  · rfl
  · split
    · rfl
    · rename_i ps _ _ values _
      have hall := runAll_damaged values (ofConnection s.connection s.timeout).patience ps
        s.connection 0 ⟨[], 0⟩
      generalize runAll values (ofConnection s.connection s.timeout).patience s.connection 0 ⟨[], 0⟩
        ps = o at hall ⊢
      obtain ⟨e | ran, c⟩ := o <;> exact hall

structure Tidy (s : Store) : Prop where
  distinct : (s.compiled.map Prod.fst).Nodup
  bounded : s.compiled.length ≤ capacity

section

variable {s : Store} {sql : String} {done : Connection.Compiled}

theorem length_le_filter (sql : String) {es : List (String × Connection.Compiled)}
    (h : (es.map Prod.fst).Nodup) :
    es.length ≤ (es.filter fun e => e.1 ≠ sql).length + 1 := by
  induction es with
  | nil => simp
  | cons e es ih =>
    rw [List.map_cons, List.nodup_cons] at h
    by_cases he : e.1 = sql
    · have hall : es.filter (fun e => e.1 ≠ sql) = es := by
        refine List.filter_eq_self.2 fun x hx => ?_
        have hne : x.1 ≠ sql := fun hxs => h.1 (by
          rw [he, ← hxs]
          exact List.mem_map_of_mem hx)
        simpa using hne
      rw [List.filter_cons_of_neg (by simp [he]), hall]
      exact Nat.le_refl _
    · have hl := ih h.2
      rw [List.filter_cons_of_pos (by simp [he]), List.length_cons, List.length_cons]
      omega

/-- More and more texts are kept, up to the capacity. -/
theorem tidy_keeping (h : s.Tidy) (c : Connection) :
    Tidy ⟨c, s.keeping sql done, s.timeout⟩ ∧
      s.compiled.length ≤ (s.keeping sql done).length := by
  have hlen := length_le_filter sql h.distinct
  have hb := h.bounded
  refine ⟨⟨?_, ?_⟩, ?_⟩
  · have hsub : List.Sublist
        (((s.compiled.filter fun e => e.1 ≠ sql).take (capacity - 1)).map Prod.fst)
        (s.compiled.map Prod.fst) :=
      ((List.take_sublist _ _).trans List.filter_sublist).map _
    refine List.nodup_cons.2 ⟨fun hm => ?_, h.distinct.sublist hsub⟩
    obtain ⟨e, he, hes⟩ := List.mem_map.1 hm
    have hf := (List.mem_filter.1 (List.mem_of_mem_take he)).2
    simp [hes] at hf
  · simp only [keeping, List.length_cons, List.length_take, capacity]
    omega
  · simp only [keeping, List.length_cons, List.length_take]
    simp only [capacity] at hb ⊢
    omega

theorem known_keeping (c : Connection) (t : Nat) :
    known ⟨c, s.keeping sql done, t⟩ sql = some done := by
  simp [known, keeping]

theorem find?_others (es : List (String × Connection.Compiled)) {other : String}
    (hne : other ≠ sql) :
    (es.filter fun e => e.1 ≠ sql).find? (fun e => e.1 = other) =
      es.find? fun e => e.1 = other := by
  rw [List.find?_filter]
  congr 1
  funext e
  by_cases he : e.1 = other
  · simp [he, hne]
  · simp [he]

theorem known_keeping_eq (c : Connection) (t : Nat) {other : String} (hne : other ≠ sql) :
    known ⟨c, s.keeping sql done, t⟩ other =
      (((s.compiled.filter fun e => e.1 ≠ sql).take (capacity - 1)).find? fun e =>
        e.1 = other).map Prod.snd := by
  have hsql : ¬sql = other := fun h => hne h.symm
  simp only [known, keeping, List.find?_cons, hsql, decide_false]

/-- Where there is room, nothing known of other texts is lost. -/
theorem known_keeping_of_ne (c : Connection) (t : Nat)
    (hroom : (s.keeping sql done).length < capacity) {other : String} (hne : other ≠ sql) :
    known ⟨c, s.keeping sql done, t⟩ other = s.known other := by
  have htake : (s.compiled.filter fun e => e.1 ≠ sql).take (capacity - 1) =
      s.compiled.filter fun e => e.1 ≠ sql := by
    refine List.take_of_length_le ?_
    simp only [keeping, List.length_cons, List.length_take] at hroom
    omega
  rw [known_keeping_eq c t hne, htake, find?_others s.compiled hne, known]

/-- What is known of another text was known of it before. -/
theorem known_of_keeping {c : Connection} {t : Nat} {other : String} {before : Connection.Compiled}
    (hne : other ≠ sql) (h : known ⟨c, s.keeping sql done, t⟩ other = some before) :
    s.known other = some before := by
  rw [known_keeping_eq c t hne, Option.map_eq_some_iff] at h
  obtain ⟨e, he, rfl⟩ := h
  have hfind := List.IsPrefix.find?_eq_some (List.take_prefix _ _) he
  rw [find?_others s.compiled hne] at hfind
  rw [known, hfind]
  rfl

end

inductive Reachable : Store → Prop
  | opened (c : Connection) (timeout : Nat) : Reachable (ofConnection c timeout)
  | ran {s : Store} (h : Reachable s) (statement : Statement) : Reachable (s.run statement).2

structure Compiles (sql : String) (kind : Prepared → Prop) : Prop where
  trimmed : Text.trimmed sql = sql
  prepares (c : Connection) :
    (∃ p, kind p ∧ c.prepare (.ofText sql) = (⟨[p], Connection.ended⟩, none)) ∨
      ∃ e, c.prepare (.ofText sql) = (.ofText sql, some e)

def Whole (sql : String) (kind : Prepared → Prop) (done : Connection.Compiled) : Prop :=
  done = .ofText sql ∨ ∃ p, kind p ∧ done = ⟨[p], Connection.ended⟩

namespace Compiles

variable {sql : String} {kind : Prepared → Prop} {s : Store}

theorem prepared (h : Compiles sql kind) (c : Connection) {known : Option Connection.Compiled}
    (hk : ∀ done, known = some done → Whole sql kind done) :
    Whole sql kind (prepared c known sql).1 ∧
      ∀ ps, ready (Store.prepared c known sql) = .ok ps → ∃ p, kind p ∧ ps = [p] := by
  have hbefore : Whole sql kind (known.getD (.ofText (Text.trimmed sql))) := by
    cases known with
    | none => exact .inl (congrArg Connection.Compiled.ofText h.trimmed)
    | some done => exact hk done rfl
  rw [Store.prepared]
  rcases hbefore with hb | ⟨p, hp, hb⟩
  · rw [hb]
    rcases h.prepares c with ⟨p, hp, hc⟩ | ⟨e, hc⟩
    · rw [hc]
      exact ⟨.inr ⟨p, hp, rfl⟩, fun ps hps => ⟨p, hp, (Except.ok.inj hps).symm⟩⟩
    · rw [hc]
      exact ⟨.inl rfl, fun ps hps => by cases hps⟩
  · rw [hb, Connection.prepare_ended]
    exact ⟨.inr ⟨p, hp, rfl⟩, fun ps hps => ⟨p, hp, (Except.ok.inj hps).symm⟩⟩

theorem known_run (h : Compiles sql kind)
    (hk : ∀ done, s.known sql = some done → Whole sql kind done) (statement : Statement) :
    ∀ done, (s.run statement).2.known sql = some done → Whole sql kind done := by
  intro done hdone
  rw [run_eq] at hdone
  by_cases hsql : sql = statement.sql
  · subst hsql
    rw [known_keeping] at hdone
    exact Option.some.inj hdone ▸ (h.prepared s.connection hk).1
  · exact hk done (known_of_keeping hsql hdone)

/-- No run leaves a store with a part of the text compiled. -/
theorem known_of_reachable (h : Compiles sql kind) (hs : s.Reachable) :
    ∀ done, s.known sql = some done → Whole sql kind done := by
  induction hs with
  | opened c timeout => intro done hdone; cases hdone
  | ran _ statement ih => exact h.known_run ih statement

/-- A text that compiles here is compiled as it is here, unless something else is known of it. -/
theorem prepared_here (h : Compiles sql kind) (hs : s.Reachable) {p : Prepared}
    (hp : s.connection.prepare (.ofText sql) = (⟨[p], Connection.ended⟩, none))
    (hk : ∀ q, kind q → s.known sql = some ⟨[q], Connection.ended⟩ → q = p) :
    Store.prepared s.connection (s.known sql) sql = (⟨[p], Connection.ended⟩, none) := by
  rw [Store.prepared]
  cases hknown : s.known sql with
  | none => rw [Option.getD_none, h.trimmed, hp]
  | some done =>
    rcases h.known_of_reachable hs done hknown with rfl | ⟨q, hq, rfl⟩
    · rw [Option.getD_some, hp]
    · obtain rfl := hk q hq hknown
      exact Connection.prepare_ended _ _

end Compiles

def Single (sql : String) (n : Nat) : Prop := Compiles sql fun p => p.parameters.count = n

theorem Compiles.single {sql : String} {kind : Prepared → Prop} {n : Nat} (h : Compiles sql kind)
    (hkind : ∀ p, kind p → p.parameters.count = n) : Single sql n where
  trimmed := h.trimmed
  prepares c := (h.prepares c).imp_left fun ⟨p, hp, hc⟩ => ⟨p, hkind p hp, hc⟩

theorem timedOut_ne (s : Store) (e : StoreError) {other : StoreError → AccessError}
    {a : AccessError} (ht : ∀ n, a ≠ .timeout n) (ho : ∀ e, a ≠ other e) :
    s.timedOut e other ≠ a := by
  rw [timedOut]
  split
  · exact (ht _).symm
  · exact (ho e).symm

theorem convertAll_arity (expected values types : Nat) (texts : List String)
    (bound : List ColumnType) (index : Nat) :
    convertAll index texts bound ≠ .error (.bindArity expected values types) := by
  induction texts generalizing index bound with
  | nil => rw [convertAll] <;> simp
  | cons text texts ih =>
    cases bound with
    | nil => rw [convertAll] <;> simp
    | cons type bound =>
      rw [convertAll]
      cases convert type text with
      | none => simp
      | some v =>
        intro he
        cases hc : convertAll (index + 1) texts bound with
        | error e =>
          simp only [hc] at he
          exact ih bound (index + 1) (hc.trans he)
        | ok vs => simp only [hc] at he; cases he

/-- Where a text is compiled as one statement, as many values and types as it has parameters
are never found too many or too few. -/
theorem Single.run_arity {s : Store} {statement : Statement} {n : Nat}
    (h : Single statement.sql n) (hs : s.Reachable) (hv : statement.values.length = n)
    (ht : statement.types.length = n) (expected values types : Nat) :
    (s.run statement).1 ≠ .error (.bindArity expected values types) := by
  obtain ⟨-, hready⟩ := Compiles.prepared h s.connection (Compiles.known_of_reachable h hs)
  rw [run_eq]
  simp only [outcome]
  cases hp : ready (Store.prepared s.connection (s.known statement.sql) statement.sql) with
  | error e =>
    exact fun he => timedOut_ne _ _ (by simp) (by simp) (Except.error.inj he)
  | ok ps =>
    obtain ⟨p, hcount, rfl⟩ := hready ps hp
    have hb : bindings [p] statement = convertAll 0 statement.values statement.types := by
      rw [bindings, if_neg]
      simp [Sql.total, hcount, hv, ht]
    simp only [hb]
    cases hc : convertAll 0 statement.values statement.types with
    | error e =>
      intro he
      obtain rfl := Except.error.inj he
      exact convertAll_arity expected values types _ _ 0 hc
    | ok bound =>
      simp only
      rcases runAll bound (ofConnection s.connection s.timeout).patience s.connection 0 ⟨[], 0⟩ [p]
        with ⟨e | ran, c⟩
      · exact fun he => timedOut_ne _ _ (by simp) (by simp) (Except.error.inj he)
      · simp

end Store
end Tabular
