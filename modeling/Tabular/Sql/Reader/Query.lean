import Tabular.Sql.Reader.Term

/-!
# Reading queries

A query is a chain of selections, each from joined sources, with an order and a
limit at its end and named tables in front.
-/

set_option autoImplicit false

namespace Tabular.Sql.Reader

def nameList : Reader (List String) := items objectName

def labelAfter : Reader (Option String) := do
  if ← take "AS" then some <$> objectName
  else fun ts =>
    match (first ts).aliasName? with
    | some s => .ok (some s, ts.tail)
    | none => .ok (none, ts)

def resultColumn (p : Phrases) : Reader (ResultColumn Query) := do
  let start ← tokens
  match start with
  | t :: u :: v :: _ =>
    if t.is "*" then do
      skip
      pure .star
    else if t.objectName?.isSome ∧ u.is "." ∧ v.is "*" then do
      let table ← objectName
      expectAll [".", "*"]
      pure (.tableStar table)
    else termColumn start
  | [t, _] => if t.is "*" then (do skip; pure .star) else termColumn start
  | _ => termColumn start
where
  termColumn (start : List Token) : Reader (ResultColumn Query) := do
    let t ← p.term 1
    let span ← spanSince start
    let label ← labelAfter
    pure (.term t label span)

def joinBefore : Reader (Option (JoinKind × Bool)) := do
  if ← take "," then pure (some (.inner, false))
  else do
    let words ← many (fun ts =>
      if (first ts).isAny joinWords then .ok (some (first ts).key, ts.tail) else .ok (none, ts))
    let t ← peek
    if words.isEmpty ∧ !t.is "JOIN" then pure none
    else do
      expect "JOIN"
      let left := words.contains "LEFT"
      let right := words.contains "RIGHT"
      let kind := if words.contains "FULL" || (left && right) then .full
        else if left then .left else if right then .right else .inner
      pure (some (kind, words.contains "NATURAL"))

def starOf (sources : List (Source Query)) : Query :=
  .mk ⟨false, [], .select false [.star] sources none [] none, [], [], none, none⟩

def sourceWith (p : Phrases) (sources : Reader (List (Source Query))) (kind : JoinKind)
    (natural : Bool) : Reader (Source Query) := do
  let origin : Origin Query ← do
    if ← take "(" then
      let t ← peek
      if startsQuery t then do
        let q ← p.query
        expect ")"
        pure (.query q)
      else do
        let inner ← sources
        expect ")"
        match inner with
        | [⟨origin, none, _, _, _, _⟩] => pure origin
        | inner => pure (.query (starOf inner))
    else do
      let name ← qualifiedName
      let t ← peek
      if t.is "(" then do
        skip
        if ← take ")" then pure (.function name.name [])
        else do
          let arguments ← items (p.term 1)
          expect ")"
          pure (.function name.name arguments)
      else pure (.named name)
  let label ← labelAfter
  if ← takeAll ["INDEXED", "BY"] then let _ ← objectName
  else let _ ← takeAll ["NOT", "INDEXED"]
  let condition ← after "ON" (p.term 1)
  let shared ← if condition.isNone then after "USING" (between nameList) else pure none
  pure ⟨origin, label, kind, natural, condition, shared.getD []⟩

def sourceList (p : Phrases) : Nat → Reader (List (Source Query))
  | 0 => refuse
  | depth + 1 => do
    let first ← sourceWith p (sourceList p depth) .inner false
    let rest ← many (do
      match ← joinBefore with
      | some (kind, natural) => some <$> sourceWith p (sourceList p depth) kind natural
      | none => pure none)
    pure (first :: rest)

def orderTerm (p : Phrases) : Reader (OrderTerm Query) := do
  let t ← p.term 1
  let descending ← take "DESC"
  if !descending then let _ ← take "ASC"
  if ← take "NULLS" then
    if ← take "FIRST" then pure ⟨t, descending, some true⟩
    else do
      expect "LAST"
      pure ⟨t, descending, some false⟩
  else pure ⟨t, descending, none⟩

def orderAfter (p : Phrases) : Reader (List (OrderTerm Query)) := do
  if ← takeAll ["ORDER", "BY"] then items (orderTerm p) else pure []

def limitAfter (p : Phrases) : Reader (Option Words × Option Words) := do
  match ← after "LIMIT" (p.term 1) with
  | none => pure (none, none)
  | some a =>
    if ← take "OFFSET" then
      let b ← p.term 1
      pure (some a, some b)
    else if ← take "," then
      let b ← p.term 1
      pure (some b, some a)
    else pure (some a, none)

def valueRow (p : Phrases) : Reader (List Words) := between (items (p.term 1))

def core (p : Phrases) :
    Reader (Core Query × List (OrderTerm Query) × Option Words × Option Words) := do
  if ← take "VALUES" then
    let rows ← items (valueRow p)
    pure (.values rows, [], none, none)
  else do
    expect "SELECT"
    let distinct ← take "DISTINCT"
    if !distinct then let _ ← take "ALL"
    let columns ← items (resultColumn p)
    let sources ← after "FROM" (fun ts => sourceList p (ts.length + 1) ts)
    let condition ← after "WHERE" (p.term 1)
    let group ← if ← takeAll ["GROUP", "BY"] then items (p.term 1) else pure []
    let having ← after "HAVING" (p.term 1)
    let order ← orderAfter p
    let (limit, offset) ← limitAfter p
    pure (.select distinct columns (sources.getD []) condition group having, order, limit, offset)

def compoundAfter : Reader (Option Compound) := do
  if ← take "UNION" then
    if ← take "ALL" then pure (some .unionAll) else pure (some .union)
  else if ← take "INTERSECT" then pure (some .intersect)
  else if ← take "EXCEPT" then pure (some .except)
  else pure none

structure Chain where
  rest : List (Compound × Core Query)
  order : List (OrderTerm Query)
  limit : Option Words
  offset : Option Words

def chainAfter (p : Phrases) (order : List (OrderTerm Query)) (limit offset : Option Words) :
    Nat → Reader Chain
  | 0 => refuse
  | fuel + 1 => do
    match ← compoundAfter with
    | none => pure ⟨[], order, limit, offset⟩
    | some op =>
      let (next, order', limit', offset') ← core p
      let chain ← chainAfter p order' limit' offset' fuel
      if !order.isEmpty then fail (.lateClause "ORDER BY" op.words)
      else if limit.isSome then fail (.lateClause "LIMIT" op.words)
      else pure { chain with rest := (op, next) :: chain.rest }

def commonTable (p : Phrases) : Reader (CommonTable Query) := do
  let name ← objectName
  let t ← peek
  let columns ← if t.is "(" then between nameList else pure []
  expect "AS"
  if ← take "NOT" then expect "MATERIALIZED"
  else let _ ← take "MATERIALIZED"
  let q ← between p.query
  pure ⟨name, columns, q⟩

def commonTables (p : Phrases) : Reader (Bool × List (CommonTable Query)) := do
  if ← take "WITH" then
    let recursive ← take "RECURSIVE"
    let commons ← items (commonTable p)
    pure (recursive, commons)
  else pure (false, [])

def queryAfter (p : Phrases) (commons : Bool × List (CommonTable Query)) : Reader Query := do
  let (c, order, limit, offset) ← core p
  let chain ← fun ts => chainAfter p order limit offset (ts.length + 1) ts
  pure (.mk ⟨commons.1, commons.2, c, chain.rest, chain.order, chain.limit, chain.offset⟩)

def query (p : Phrases) : Reader Query := do
  let commons ← commonTables p
  queryAfter p commons

def phrases : Nat → Phrases
  | 0 => ⟨fun _ => refuse, refuse⟩
  | depth + 1 =>
    let inner := phrases depth
    ⟨term inner, query inner⟩

end Tabular.Sql.Reader
