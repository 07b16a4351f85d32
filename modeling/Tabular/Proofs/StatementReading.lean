import Tabular.Proofs.ItemReading
import Tabular.Proofs.RequestPieces

/-!
# Reading statements back

Listings and changes of rows are read clause by clause. The table must have a name that
is no keyword; each clause ends where the next one begins.
-/

set_option autoImplicit false

namespace Tabular

open Sql Sql.Reader

def isReserved (table : String) : Bool :=
  reservedWords.contains (String.ofList (table.toList.map Char.toUpper))

def tableName (table : String) : ObjectName := ⟨none, table, table⟩

def sourceOf (table : String) : Source Query :=
  ⟨.named (tableName table), none, .inner, false, none, []⟩

section

variable {table : String} {t : Token} {gap : List Char} {rest : List Token}

theorem read_table (hr : isReserved table = false) (gap : List Char) (hd : t.is "." = false)
    (rest : List Token) :
    qualifiedName (.word gap table :: t :: rest) = .ok (tableName table, t :: rest) := by
  have hp : peek (.word gap table :: t :: rest) =
      .ok (.word gap table, .word gap table :: t :: rest) := rfl
  have ht : take "." (t :: rest) = .ok (false, t :: rest) := take_miss hd
  have htext : (Token.word gap table).text = table := String.ofList_toList
  rw [qualifiedName, bind_ok hp, bind_ok (objectName_bare hr), bind_ok ht, htext]
  rfl

theorem read_reserved (hr : isReserved table) (gap : List Char) (rest : List Token) :
    ∃ e, qualifiedName (.word gap table :: rest) = .error e := by
  have hp : peek (.word gap table :: rest) = .ok (.word gap table, .word gap table :: rest) := rfl
  obtain ⟨e, he⟩ := objectName_reserved hr gap rest
  rw [qualifiedName, bind_ok hp, bind_error he]
  exact ⟨e, rfl⟩

def clauseHeads : List Token :=
  [.word space "WHERE", .word space "ORDER", .word space "LIMIT", .finish]

theorem read_source {p : Phrases} {sources : Reader (List (Source Query))}
    (hw : Identifier.isPlain table) (hr : isReserved table = false) (ht : t ∈ clauseHeads) :
    sourceWith p sources .inner false (.word gap table :: t :: rest) =
      .ok (sourceOf table, t :: rest) := by
  have hopen : take "(" (.word gap table :: t :: rest) =
      .ok (false, .word gap table :: t :: rest) :=
    take_miss (word_is_not (isWord_of_plain hw) (c := '(') rfl (by decide))
  have hdot : t.is "." = false := by
    have hall : ∀ u ∈ clauseHeads, u.is "." = false := by decide
    exact hall t ht
  have hname := read_table hr gap hdot rest
  rw [sourceWith, bind_ok hopen, if_neg Bool.false_ne_true, bind_ok hname]
  simp only [clauseHeads, List.mem_cons, List.not_mem_nil, or_false] at ht
  rcases ht with rfl | rfl | rfl | rfl <;> rfl

theorem read_sources (p : Phrases) (hw : Identifier.isPlain table)
    (hr : isReserved table = false) (gap : List Char) (ht : t ∈ clauseHeads) (rest : List Token) :
    after "FROM" (fun ts => sourceList p (ts.length + 1) ts)
        (.word space "FROM" :: .word gap table :: t :: rest) =
      .ok (some [sourceOf table], t :: rest) := by
  have hsource (n : Nat) : sourceList p (n + 1) (.word gap table :: t :: rest) =
      .ok ([sourceOf table], t :: rest) := by
    rw [sourceList, bind_ok (read_source hw hr ht)]
    simp only [clauseHeads, List.mem_cons, List.not_mem_nil, or_false] at ht
    rcases ht with rfl | rfl | rfl | rfl <;> rfl
  exact after_hit rfl (hsource _)

end

def limitOf (limit : Nat) : Option Words :=
  if limit = 0 then none else some (.value (numberValue (Decimal.showNat limit).toList))

theorem read_limit (d n limit : Nat) :
    limitAfter (phrases (d + 1)) (numbered n (Statement.limitPieces limit) ++ [.finish]) =
      .ok ((limitOf limit, none), [.finish]) := by
  rw [Statement.limitPieces, limitOf]
  split
  · rfl
  · rfl

theorem read_order {d n : Nat} {order : List SortKey} (hn : ∀ k ∈ order, isBare termWords k.column)
    {t : Token} (ht : t ∈ [.word space "LIMIT", .finish]) (rest : List Token) :
    orderAfter (phrases (d + 1)) (numbered n (Statement.orderPieces order) ++ t :: rest) =
      .ok (order.map orderOf, t :: rest) := by
  simp only [List.mem_cons, List.not_mem_nil, or_false] at ht
  rw [Statement.orderPieces]
  cases order with
  | nil => rcases ht with rfl | rfl <;> rfl
  | cons k order =>
    have hkeys := items_separated (orderTerm (phrases (d + 1))) endsKey Statement.sortPieces
      (fun _ key => orderOf key) rfl
      (List.cons_ne_nil k order) (fun a ha m gap u us hu => read_key (hn a ha) hu us) (t := t)
      (by rcases ht with rfl | rfl <;> rfl) (by rcases ht with rfl | rfl <;> rfl) n space rest
    rw [numberedItems_none Statement.sortPieces fun _ _ => rfl] at hkeys
    have hby : takeAll ["ORDER", "BY"] (.word space "ORDER" :: .word space "BY" ::
        (numbered n (separated ((k :: order).map Statement.sortPieces) space) ++ t :: rest)) =
          .ok (true, numbered n (separated ((k :: order).map Statement.sortPieces) space) ++
            t :: rest) := rfl
    exact (bind_ok hby).trans hkeys

theorem read_where {d : Nat} {f : Filter} (hn : ∀ c ∈ f.leaves, isBare openWords c.field)
    (hd : (numbered 0 (Statement.wherePieces f)).length ≤ d) {t : Token}
    (ht : t ∈ [.word space "ORDER", .word space "LIMIT", .finish]) (rest : List Token) :
    after "WHERE" ((phrases (d + 1)).term 1)
        (numbered 0 (Statement.wherePieces f) ++ t :: rest) =
      .ok (f.whole?.map Part.term, t :: rest) := by
  simp only [List.mem_cons, List.not_mem_nil, or_false] at ht
  rw [Statement.wherePieces] at hd ⊢
  cases hp : f.whole? with
  | none =>
    refine after_miss ?_
    rcases ht with rfl | rfl | rfl <;> rfl
  | some p =>
    rw [hp] at hd
    have hloose : Loose 1 (t :: rest) :=
      loose_of_ends (by rcases ht with rfl | rfl | rfl <;> rfl) rest
    have hread := (Filter.whole_sequence hn hp).reads termWords (.inl rfl) space d
      (Nat.le_of_succ_le hd) (t :: rest) hloose
    exact after_hit rfl hread

def resultsOf (select : List String) : List (ResultColumn Query) :=
  if select.isEmpty then [.star] else select.map resultOf

theorem read_selection {d n : Nat} {select : List String}
    (hn : ∀ c ∈ select, c = "*" ∨ isBare termWords c) {t : Token} (ht : t = .word space "FROM")
    (rest : List Token) :
    items (resultColumn (phrases (d + 1)))
        (numbered n (Statement.selectionPieces select) ++ t :: rest) =
      .ok (resultsOf select, t :: rest) := by
  subst ht
  rw [Statement.selectionPieces, resultsOf]
  cases select with
  | nil => cases rest <;> rfl
  | cons c select =>
    have hcolumns := items_separated (resultColumn (phrases (d + 1))) endsColumn
      Statement.selectedPieces (fun _ c => resultOf c) rfl
      (List.cons_ne_nil c select) (fun a ha m gap u us hu => read_selected (hn a ha) hu us)
      (t := .word space "FROM") rfl rfl n space rest
    rw [numberedItems_none] at hcolumns
    · exact hcolumns
    · intro a gap
      rw [Statement.selectedPieces]
      split <;> rfl

theorem head_limit (n limit : Nat) :
    ∃ t rest, numbered n (Statement.limitPieces limit) ++ [.finish] = t :: rest ∧
      t ∈ [.word space "LIMIT", .finish] := by
  rw [Statement.limitPieces]
  split
  · exact ⟨_, _, rfl, by simp⟩
  · exact ⟨_, _, rfl, by simp [Piece.toToken]⟩

theorem head_order (n : Nat) (order : List SortKey) {t : Token}
    (ht : t ∈ [.word space "LIMIT", .finish]) (rest : List Token) :
    ∃ u us, numbered n (Statement.orderPieces order) ++ t :: rest = u :: us ∧
      u ∈ [.word space "ORDER", .word space "LIMIT", .finish] := by
  rw [Statement.orderPieces]
  split
  · exact ⟨_, _, rfl, List.mem_cons_of_mem _ ht⟩
  · exact ⟨_, _, rfl, by simp [Piece.toToken]⟩

theorem head_where (n : Nat) (f : Filter) {t : Token}
    (ht : t ∈ [.word space "ORDER", .word space "LIMIT", .finish]) (rest : List Token) :
    ∃ u us, numbered n (Statement.wherePieces f) ++ t :: rest = u :: us ∧ u ∈ clauseHeads := by
  rw [Statement.wherePieces]
  cases f.whole? with
  | none => exact ⟨_, _, rfl, List.mem_cons_of_mem _ ht⟩
  | some p => exact ⟨_, _, rfl, by simp [Piece.toToken, clauseHeads]⟩

/-- No reserved word stands in front of a selection. -/
theorem head_selection {n : Nat} {select : List String}
    (hn : ∀ c ∈ select, c = "*" ∨ isBare termWords c) {key : String} (hk : key ∈ reservedWords)
    (ts : List Token) :
    take key (numbered n (Statement.selectionPieces select) ++ ts) =
      .ok (false, numbered n (Statement.selectionPieces select) ++ ts) := by
  have hstar (ts : List Token) : (first (.symbol space "*" :: ts)).is key = false := by
    have hall : ∀ key ∈ reservedWords, (Token.symbol space "*").is key = false := by decide
    exact hall key hk
  refine take_miss ?_
  rw [Statement.selectionPieces]
  cases select with
  | nil => exact hstar ts
  | cons c select =>
    by_cases hc : c = "*"
    · subst hc
      exact hstar _
    · have hbare := (hn c (by simp)).resolve_left hc
      have hword : numbered n (separated ((c :: select).map Statement.selectedPieces) space) =
          .word space c :: numbered n ((select.map Statement.selectedPieces).flatMap
            fun i => .token (.symbol [] ",") :: i space) := by
        rw [List.map_cons, separated, Statement.selectedPieces, if_neg hc]
        rfl
      have hx := Part.excludes_of_bare hbare
      change (first (numbered n (separated ((c :: select).map Statement.selectedPieces) space) ++
        ts)).is key = false
      rw [hword]
      refine Bool.eq_false_iff.2 fun h => ?_
      have hkey : String.ofList (c.toList.map Char.toUpper) = key := of_decide_eq_true h
      have hin : termWords.contains key := List.contains_iff_mem.2 (List.mem_append_left _ hk)
      rw [hkey, hin] at hx
      cases hx

def selectionOf (table : String) (request : ListRequest) : Core Query :=
  .select false (resultsOf request.select) [sourceOf table]
    (request.filter.whole?.map Part.term) [] none

def listingTokens (table : String) (request : ListRequest) : List Token :=
  let n := parameterCount ((Statement.wherePieces request.filter).map Piece.toToken)
  numbered 0 (Statement.selectionPieces request.select) ++ .word space "FROM" ::
    .word space table :: (numbered 0 (Statement.wherePieces request.filter) ++
      (numbered n (Statement.orderPieces request.order) ++
        (numbered n (Statement.limitPieces request.limit) ++ [.finish])))

theorem read_listing {d : Nat} {table : String} {request : ListRequest}
    (hw : Identifier.isPlain table) (hr : isReserved table = false)
    (hselect : ∀ c ∈ request.select, c = "*" ∨ isBare termWords c)
    (hfilter : ∀ c ∈ request.filter.leaves, isBare openWords c.field)
    (horder : ∀ k ∈ request.order, isBare termWords k.column)
    (hd : (numbered 0 (Statement.wherePieces request.filter)).length ≤ d) :
    core (phrases (d + 1)) (.word [] "SELECT" :: listingTokens table request) =
      .ok ((selectionOf table request, request.order.map orderOf, limitOf request.limit, none),
        [.finish]) := by
  have hvalues : take "VALUES" (.word [] "SELECT" :: listingTokens table request) =
      .ok (false, .word [] "SELECT" :: listingTokens table request) := rfl
  have hword : expect "SELECT" (.word [] "SELECT" :: listingTokens table request) =
      .ok ((), listingTokens table request) := rfl
  have hdistinct : take "DISTINCT" (listingTokens table request) =
      .ok (false, listingTokens table request) := head_selection hselect (by decide) _
  have hall : take "ALL" (listingTokens table request) =
      .ok (false, listingTokens table request) := head_selection hselect (by decide) _
  rw [core, bind_ok hvalues, if_neg Bool.false_ne_true, bind_ok hword, bind_ok hdistinct,
    Bool.not_false, if_pos rfl, bind_ok hall]
  rw [listingTokens]
  generalize parameterCount ((Statement.wherePieces request.filter).map Piece.toToken) = n
  have hlimit := read_limit d n request.limit
  obtain ⟨t, ts, hts, ht⟩ := head_limit n request.limit
  rw [hts] at hlimit ⊢
  have horders := read_order (d := d) (n := n) horder ht ts
  obtain ⟨u, us, hus, hu⟩ := head_order n request.order ht ts
  rw [hus] at horders ⊢
  have hwhere := read_where hfilter hd hu us
  obtain ⟨v, vs, hvs, hv⟩ := head_where 0 request.filter hu us
  rw [hvs] at hwhere ⊢
  have hsources := read_sources (phrases (d + 1)) hw hr space hv vs
  have hselection := read_selection (d := d) (n := 0) hselect rfl (.word space table :: v :: vs)
  have hgroup : takeAll ["GROUP", "BY"] (u :: us) = .ok (false, u :: us) := by
    simp only [List.mem_cons, List.not_mem_nil, or_false] at hu
    rcases hu with rfl | rfl | rfl <;> rfl
  have hhaving : after "HAVING" ((phrases (d + 1)).term 1) (u :: us) = .ok (none, u :: us) := by
    simp only [List.mem_cons, List.not_mem_nil, or_false] at hu
    rcases hu with rfl | rfl | rfl <;> rfl
  have hnone : (pure [] : Reader (List Words)) (u :: us) = .ok ([], u :: us) := rfl
  refine (bind_ok hselection).trans ((bind_ok hsources).trans ((bind_ok hwhere).trans ?_))
  rw [bind_ok hgroup, if_neg Bool.false_ne_true, bind_ok hnone]
  exact (bind_ok hhaving).trans ((bind_ok horders).trans (bind_ok hlimit))

/-- A query whose first core ends the text. -/
theorem read_query {d : Nat} {ts : List Token} {c : Core Query} {order : List (OrderTerm Query)}
    {limit : Option Words}
    (h : core (phrases d) (.word [] "SELECT" :: ts) = .ok ((c, order, limit, none), [.finish])) :
    instruction (phrases (d + 1)) (.word [] "SELECT" :: ts) =
      .ok (.query (.mk ⟨false, [], c, [], order, limit, none⟩), [.finish]) := by
  have hquery : (phrases (d + 1)).query (.word [] "SELECT" :: ts) =
      .ok (.mk ⟨false, [], c, [], order, limit, none⟩, [.finish]) := by
    have hcommons : commonTables (phrases d) (.word [] "SELECT" :: ts) =
        .ok ((false, []), .word [] "SELECT" :: ts) := rfl
    change query (phrases d) _ = _
    rw [query, bind_ok hcommons, queryAfter]
    exact bind_ok h
  exact map_ok hquery

theorem next_of_read {t : Token} {ts : List Token} {i : Instruction} (hs : t.is ";" = false)
    (hf : t.lexeme ≠ .finish)
    (h : instruction (phrases ((t :: ts).length + 1)) (t :: ts) = .ok (i, [.finish])) :
    next (t :: ts) = .ok (some i, [.finish]) := by
  have hd : (t :: ts).dropWhile (fun t => t.is ";") = t :: ts :=
    List.dropWhile_cons_of_neg (by simp [hs])
  have hfirst : ¬(first (t :: ts)).lexeme = .finish := hf
  simp only [next, hd, if_neg hfirst, h]
  rfl

def idTerm (n : Nat) : Words := .binary .equal (.column none "id" .bare) (.parameter n)

def idTokens (n : Nat) : List Token := numbered n Statement.idPieces ++ [.finish]

theorem read_id {d : Nat} (hd : 3 ≤ d) (n : Nat) :
    after "WHERE" ((phrases (d + 1)).term 1) (idTokens n) =
      .ok (some (idTerm (n + 1)), [.finish]) := by
  have hunit := unit_condition space "id".toList .eq (n + 1) (by decide)
  have hterm := term_sequence hunit (List.forall_mem_nil _)
  exact after_hit rfl (hterm d hd [.finish] (loose_of_ends rfl []))

theorem word_is_no_key {table key : String} {gap : List Char} (hr : isReserved table = false)
    (hk : key ∈ reservedWords) : (Token.word gap table).is key = false := by
  refine Bool.eq_false_iff.2 fun h => ?_
  have hkey : String.ofList (table.toList.map Char.toUpper) = key := of_decide_eq_true h
  have hin : reservedWords.contains key := List.contains_iff_mem.2 hk
  rw [isReserved, hkey, hin] at hr
  cases hr

theorem between_ok {α : Type} {r : Reader α} {a : α} {gap : List Char} {ts rest : List Token}
    (h : r ts = .ok (a, .symbol [] ")" :: rest)) :
    between r (.symbol gap "(" :: ts) = .ok (a, rest) := by
  have hopen : expect "(" (.symbol gap "(" :: ts) = .ok ((), ts) := rfl
  rw [between, bind_ok hopen, bind_ok h]
  rfl

def updateOf (table : String) (columns : List String) : Instruction :=
  .update [] ⟨tableName table, none, none,
    columns.zipIdx.map fun x => (x.1, .parameter (x.2 + 1)), [],
    some (idTerm (columns.length + 1)), []⟩

def deletionOf (table : String) : Instruction :=
  .delete [] ⟨tableName table, none, some (idTerm 1), []⟩

def insertionOf (table : String) (columns : List String) : Instruction :=
  .insert ⟨tableName table, none, none, columns,
    some (.mk ⟨false, [], .values [columns.zipIdx.map fun x => .parameter (x.2 + 1)], [], [], none,
      none⟩), [], []⟩

variable {d : Nat} {table : String}

theorem read_deletion (hd : 3 ≤ d) (hr : isReserved table = false) :
    rowsInstruction (phrases (d + 1)) (false, [])
        (numbered 0 (Statement.deletePieces table) ++ [.finish]) =
      .ok (deletionOf table, [.finish]) := by
  have hstart : rowsInstruction (phrases (d + 1)) (false, [])
      (numbered 0 (Statement.deletePieces table) ++ [.finish]) =
        deletion (phrases (d + 1)) [] (.word space "FROM" :: .word space table :: idTokens 0) := rfl
  have hfrom : expect "FROM" (.word space "FROM" :: .word space table :: idTokens 0) =
      .ok ((), .word space table :: idTokens 0) := rfl
  have hname : qualifiedName (.word space table :: idTokens 0) =
      .ok (tableName table, idTokens 0) :=
    read_table hr space (rfl : (Token.word space "WHERE").is "." = false) _
  have hlabel : targetLabel (idTokens 0) = .ok (none, idTokens 0) := rfl
  rw [hstart, deletion, bind_ok hfrom, bind_ok hname, bind_ok hlabel, bind_ok (read_id hd 0)]
  rfl

def updateTokens (table : String) (columns : List String) : List Token :=
  .word space table :: .word space "SET" ::
    (numbered 0 (separated (columns.map Statement.assignmentPieces) space) ++
      idTokens columns.length)

/-- Each assignment takes one value, so the number of the row comes behind all of them. -/
theorem numbered_update (table : String) (columns : List String) :
    numbered 0 (Statement.updatePieces table columns) ++ [.finish] =
      .word [] "UPDATE" :: updateTokens table columns := by
  have hcount : parameterCount
      ((separated (columns.map Statement.assignmentPieces) space).map Piece.toToken) =
        columns.length := by
    rw [parameterCount, ← Piece.length_marks, Piece.picks_parameters.separated (g := fun _ => [()])]
    · simp
    · exact fun _ _ => rfl
  have hthree : parameterCount ([Piece.token (.word [] "UPDATE"), .token (.word space table),
    .token (.word space "SET")].map Piece.toToken) = 0 := rfl
  rw [Statement.updatePieces, List.append_assoc, numbered_append, numbered_append, hthree, hcount,
    Nat.add_zero, Nat.zero_add, List.append_assoc, List.append_assoc]
  rfl

theorem read_assignments {columns : List String} (hne : columns ≠ [])
    (hn : ∀ c ∈ columns, isBare reservedWords c) (n : Nat) :
    assignments (phrases (d + 1))
        (numbered 0 (separated (columns.map Statement.assignmentPieces) space) ++ idTokens n) =
      .ok (columns.zipIdx.map fun x => (x.1, .parameter (x.2 + 1)), idTokens n) := by
  have hitems := items_separated (assignment (phrases (d + 1))) endsTerm
    Statement.assignmentPieces (fun n c => (c, .parameter (n + 1))) rfl hne
    (fun c hc n gap t rest ht => read_assignment (hn c hc) ht rest)
    (t := .word space "WHERE") rfl rfl 0 space (idTokens n).tail
  rw [numberedItems_one Statement.assignmentPieces fun _ _ => rfl] at hitems
  exact hitems

/-- No clause on conflicts begins with the name of a table. -/
theorem no_conflict (hr : isReserved table = false) (rest : List Token) :
    conflictAfterOr (.word space table :: rest) = .ok (none, .word space table :: rest) := by
  have hor : take "OR" (.word space table :: rest) = .ok (false, .word space table :: rest) :=
    take_miss (word_is_no_key hr (by decide))
  rw [conflictAfterOr, bind_ok hor, if_neg Bool.false_ne_true]
  rfl

theorem read_update {columns : List String} (hd : 3 ≤ d) (hr : isReserved table = false)
    (hne : columns ≠ []) (hn : ∀ c ∈ columns, isBare reservedWords c) :
    rowsInstruction (phrases (d + 1)) (false, [])
        (numbered 0 (Statement.updatePieces table columns) ++ [.finish]) =
      .ok (updateOf table columns, [.finish]) := by
  have hstart : rowsInstruction (phrases (d + 1)) (false, [])
      (.word [] "UPDATE" :: updateTokens table columns) =
        update (phrases (d + 1)) [] (updateTokens table columns) := rfl
  have hassigned := read_assignments (d := d) hne hn columns.length
  rw [numbered_update, hstart, updateTokens]
  generalize numbered 0 (separated (columns.map Statement.assignmentPieces) space) ++
    idTokens columns.length = behind at hassigned ⊢
  have hname : qualifiedName (.word space table :: .word space "SET" :: behind) =
      .ok (tableName table, .word space "SET" :: behind) := read_table hr space rfl _
  have hlabel : targetLabel (.word space "SET" :: behind) =
      .ok (none, .word space "SET" :: behind) := rfl
  have hset : expect "SET" (.word space "SET" :: behind) = .ok ((), behind) := rfl
  have hfrom : after "FROM" (fun ts => sourceList (phrases (d + 1)) (ts.length + 1) ts)
      (idTokens columns.length) = .ok (none, idTokens columns.length) := after_miss rfl
  rw [update, bind_ok (no_conflict hr _), bind_ok hname, bind_ok hlabel, bind_ok hset,
    bind_ok hassigned, bind_ok hfrom, bind_ok (read_id hd columns.length)]
  rfl

def valueTokens (columns : List String) : List Token :=
  .symbol space "(" ::
    (numbered 0 (separated (columns.map Statement.valuePieces) []) ++ [.symbol [] ")", .finish])

/-- The values of an insertion, as the query that makes one row of them. -/
theorem read_values {columns : List String} (hne : columns ≠ []) :
    queryAfter (phrases (d + 1)) (false, []) (.word space "VALUES" :: valueTokens columns) =
      .ok (.mk ⟨false, [], .values [columns.zipIdx.map fun x => .parameter (x.2 + 1)], [], [], none,
        none⟩, [.finish]) := by
  have hitems := items_separated ((phrases (d + 1)).term 1) endsTerm Statement.valuePieces
    (fun n _ => Term.parameter (n + 1)) rfl hne
    (fun c _ n gap t rest ht => read_value d n c gap ht rest) (t := .symbol [] ")") rfl rfl 0 []
    [.finish]
  rw [numberedItems_one Statement.valuePieces fun _ _ => rfl] at hitems
  have hrow : valueRow (phrases (d + 1)) (valueTokens columns) =
      .ok (columns.zipIdx.map fun x => .parameter (x.2 + 1), [.finish]) := between_ok hitems
  have hcore : core (phrases (d + 1)) (.word space "VALUES" :: valueTokens columns) =
      .ok ((.values [columns.zipIdx.map fun x => .parameter (x.2 + 1)], [], none, none),
        [.finish]) := by
    have hvalues : take "VALUES" (.word space "VALUES" :: valueTokens columns) =
        .ok (true, valueTokens columns) := rfl
    rw [core, bind_ok hvalues, if_pos rfl]
    exact bind_ok (commaList_last hrow rfl)
  rw [queryAfter]
  exact bind_ok hcore

def insertTokens (table : String) (columns : List String) : List Token :=
  .word space "INTO" :: .word space table :: .symbol space "(" ::
    (numbered 0 (separated (columns.map Statement.quotedPieces) []) ++
      .symbol [] ")" :: .word space "VALUES" :: valueTokens columns)

/-- Names of columns take no value, so the first value stands in the row that is added. -/
theorem numbered_insert (table : String) (columns : List String) :
    numbered 0 (Statement.insertPieces table columns) ++ [.finish] =
      .word [] "INSERT" :: insertTokens table columns := by
  have hcount : parameterCount
      ((separated (columns.map Statement.quotedPieces) []).map Piece.toToken) = 0 := by
    rw [parameterCount, ← Piece.length_marks, Piece.picks_parameters.separated (g := fun _ => [])]
    · simp
    · exact fun _ _ => rfl
  have hpieces : Statement.insertPieces table columns =
      [.token (.word [] "INSERT"), .token (.word space "INTO"), .token (.word space table),
        .token (.symbol space "(")] ++ separated (columns.map Statement.quotedPieces) [] ++
      [.token (.symbol [] ")"), .token (.word space "VALUES"), .token (.symbol space "(")] ++
        separated (columns.map Statement.valuePieces) [] ++ [.token (.symbol [] ")")] := by
    simp [Statement.insertPieces, enclosedPieces]
  have hfour : parameterCount ([Piece.token (.word [] "INSERT"), .token (.word space "INTO"),
    .token (.word space table), .token (.symbol space "(")].map Piece.toToken) = 0 := rfl
  have hthree : parameterCount ([Piece.token (.symbol [] ")"), .token (.word space "VALUES"),
    .token (.symbol space "(")].map Piece.toToken) = 0 := rfl
  rw [hpieces, List.append_assoc, List.append_assoc, List.append_assoc, numbered_append,
    numbered_append, numbered_append, numbered_append, hfour, hcount, hthree]
  simp only [List.append_assoc]
  rfl

theorem read_names {columns : List String} (hne : columns ≠ []) (rest : List Token) :
    between nameList (.symbol space "(" ::
        (numbered 0 (separated (columns.map Statement.quotedPieces) []) ++
          .symbol [] ")" :: rest)) = .ok (columns, rest) := by
  have hitems := items_separated objectName (fun _ => true) Statement.quotedPieces (fun _ c => c)
    rfl hne (fun c _ n gap t rest _ => read_quoted n c gap t rest) (t := .symbol [] ")") rfl rfl 0
    [] rest
  rw [numberedItems_none Statement.quotedPieces fun _ _ => rfl, List.map_id'] at hitems
  exact between_ok hitems

theorem read_insertion {columns : List String} (hr : isReserved table = false)
    (hne : columns ≠ []) :
    rowsInstruction (phrases (d + 1)) (false, [])
        (numbered 0 (Statement.insertPieces table columns) ++ [.finish]) =
      .ok (insertionOf table columns, [.finish]) := by
  let values : List Token := .word space "VALUES" :: valueTokens columns
  have hstart : rowsInstruction (phrases (d + 1)) (false, [])
      (.word [] "INSERT" :: insertTokens table columns) =
        insertion (phrases (d + 1)) (false, []) none (insertTokens table columns) := rfl
  have hcolumns := read_names hne values
  rw [numbered_insert, hstart, insertTokens]
  generalize numbered 0 (separated (columns.map Statement.quotedPieces) []) ++
    .symbol [] ")" :: values = behind at hcolumns ⊢
  have hinto : expect "INTO" (.word space "INTO" :: .word space table :: .symbol space "(" ::
      behind) = .ok ((), .word space table :: .symbol space "(" :: behind) := rfl
  have hname : qualifiedName (.word space table :: .symbol space "(" :: behind) =
      .ok (tableName table, .symbol space "(" :: behind) := read_table hr space rfl _
  have hlabel : after "AS" objectName (.symbol space "(" :: behind) =
      .ok (none, .symbol space "(" :: behind) := after_miss rfl
  have hpeek : peek (.symbol space "(" :: behind) =
      .ok (.symbol space "(", .symbol space "(" :: behind) := rfl
  have hopen : (Token.symbol space "(").is "(" = true := rfl
  have hdefault : takeAll ["DEFAULT", "VALUES"] values = .ok (false, values) := rfl
  have hcommons : commonTables (phrases (d + 1)) values = .ok ((false, []), values) := rfl
  rw [insertion, bind_ok hinto, bind_ok hname, bind_ok hlabel, bind_ok hpeek, hopen, if_pos rfl,
    bind_ok hcolumns]
  refine (bind_ok hdefault).trans ?_
  rw [if_neg Bool.false_ne_true, bind_ok hcommons]
  exact bind_ok (read_values hne)

end Tabular
