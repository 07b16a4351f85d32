import Tabular.Proofs.StatementReading

/-!
# The texts of requests read back

The text of a request is read as the one statement that the request asks for, if its
table and the columns written as they are have names that are no keywords. Its
parameters have the numbers of the bindings.
-/

set_option autoImplicit false

namespace Tabular

open Sql Sql.Reader

theorem count_picked {ps : List Piece} {us : List Unit}
    (h : ps.flatMap (Piece.marks isParameter) = us) :
    parameterCount (ps.map Piece.toToken) = us.length := by
  rw [parameterCount, ← Piece.length_marks, h]

theorem listing_tokens (table : String) (request : ListRequest) :
    numbered 0 (Statement.listPieces table request) ++ [.finish] =
      .word [] "SELECT" :: listingTokens table request := by
  have hselection : parameterCount
      ((Statement.selectionPieces request.select).map Piece.toToken) = 0 := by
    rw [count_picked (Piece.picks_parameters.selection request.select)]
    simp
  have horder : parameterCount ((Statement.orderPieces request.order).map Piece.toToken) = 0 := by
    rw [count_picked (Piece.picks_parameters.order request.order)]
    simp
  have hselect : Statement.listPieces table request = [.token (.word [] "SELECT")] ++
      (Statement.selectionPieces request.select ++
        ([.token (.word space "FROM"), .token (.word space table)] ++
          (Statement.wherePieces request.filter ++ (Statement.orderPieces request.order ++
            Statement.limitPieces request.limit)))) := by
    simp [Statement.listPieces]
  have hone : parameterCount ([Piece.token (.word [] "SELECT")].map Piece.toToken) = 0 := rfl
  have htwo : parameterCount ([Piece.token (.word space "FROM"),
    .token (.word space table)].map Piece.toToken) = 0 := rfl
  rw [hselect]
  simp only [numbered_append, hone, htwo, hselection, horder, Nat.zero_add, Nat.add_zero,
    List.append_assoc]
  rfl

def rowsWords : List String := ["INSERT", "UPDATE", "DELETE"]

theorem instruction_rows {key : String} (hk : key ∈ rowsWords) (p : Phrases) (ts : List Token) :
    instruction p (.word [] key :: ts) = rowsInstruction p (false, []) (.word [] key :: ts) := by
  simp only [rowsWords, List.mem_cons, List.not_mem_nil, or_false] at hk
  rcases hk with rfl | rfl | rfl <;> rfl

theorem rows_no_end {key : String} (hk : key ∈ rowsWords) :
    (Token.word [] key).is ";" = false := by
  have hall : ∀ key ∈ rowsWords, (Token.word [] key).is ";" = false := by decide
  exact hall key hk

/-- A change of rows that is read as a whole. -/
theorem next_of_rows {key : String} {ts : List Token} {i : Instruction} (hk : key ∈ rowsWords)
    (hts : ∃ rest, ts = .word [] key :: rest) (hl : 3 ≤ ts.length)
    (h : ∀ d, 3 ≤ d → rowsInstruction (phrases (d + 1)) (false, []) ts = .ok (i, [.finish])) :
    next ts = .ok (some i, [.finish]) := by
  have hrows := h ts.length hl
  obtain ⟨rest, rfl⟩ := hts
  exact next_of_read (rows_no_end hk) (by simp [Token.word]) ((instruction_rows hk _ _).trans hrows)

theorem length_numbered (n : Nat) (ps : List Piece) : (numbered n ps).length = ps.length := by
  rw [numbered, numberFrom_length, List.length_map]

namespace Request

def instruction (table : String) : Request → Instruction
  | insert fields => insertionOf table (fields.map Prod.fst)
  | update _ fields => updateOf table (fields.map Prod.fst)
  | get _ =>
    .query (.mk ⟨false, [], .select false [.star] [sourceOf table] (some (idTerm 1)) [] none,
      [], [], none, none⟩)
  | delete _ => deletionOf table
  | list request =>
    .query (.mk ⟨false, [], selectionOf table request, [], request.order.map orderOf,
      limitOf request.limit, none⟩)

def Ordinary (types : ColumnTypes) : Request → Prop
  | insert _ | get _ | delete _ => True
  | update .. | list _ => ∀ n ∈ types.names, isOrdinary n

variable {table : String} {types : ColumnTypes}

theorem ordinary_of_known (h : ∀ n ∈ types.names, isOrdinary n) {column : String}
    (hc : (types.get? column).isSome) : isOrdinary column := by
  obtain ⟨type, ht⟩ := Option.isSome_iff_exists.1 hc
  rw [ColumnTypes.get?, Option.map_eq_some_iff] at ht
  obtain ⟨c, hf, -⟩ := ht
  have hname : c.1 = column := by simpa using List.find?_some hf
  exact h column (hname ▸ List.mem_map_of_mem (List.mem_of_find?_eq_some hf))

theorem next_listing (request : ListRequest) (hw : Identifier.isPlain table)
    (hr : isReserved table = false)
    (hselect : ∀ c ∈ request.select, c = "*" ∨ isBare termWords c)
    (hfilter : ∀ c ∈ request.filter.leaves, isBare openWords c.field)
    (horder : ∀ k ∈ request.order, isBare termWords k.column) :
    next (numbered 0 (Statement.listPieces table request) ++ [.finish]) =
      .ok (some ((list request).instruction table), [.finish]) := by
  have hd : (numbered 0 (Statement.wherePieces request.filter)).length ≤
      (listingTokens table request).length := by
    simp only [listingTokens, List.length_append, List.length_cons]
    omega
  rw [listing_tokens]
  exact next_of_read rfl (by simp [Token.word])
    (read_query (read_listing hw hr hselect hfilter horder hd))

/-- The text of a request is read as what it asks for. -/
theorem read_request {r : Request} (hw : Identifier.isPlain table) (hr : isReserved table = false)
    (hk : r.Known types) (ho : r.Ordinary types) :
    next (numbered 0 (r.pieces table) ++ [.finish]) =
      .ok (some (r.instruction table), [.finish]) := by
  have hnames : ∀ n, (types.get? n).isSome → (∀ n ∈ types.names, isOrdinary n) →
      ∀ excluded ⊆ keywords, isBare excluded n :=
    fun n hn h excluded he => bare_of_ordinary he (ordinary_of_known h hn)
  cases r with
  | insert fields =>
    refine next_of_rows (by decide : "INSERT" ∈ rowsWords) ⟨_, rfl⟩ ?_ fun d _ =>
      read_insertion hr (by simpa using hk.1)
    simp only [pieces, Statement.insertPieces, List.length_append, length_numbered,
      List.length_cons]
    omega
  | update id fields =>
    have hbare : ∀ c ∈ fields.map Prod.fst, isBare reservedWords c := by
      intro c hc
      obtain ⟨f, hf, rfl⟩ := List.mem_map.1 hc
      exact hnames f.1 (hk.2 f hf) ho _ (by decide)
    refine next_of_rows (by decide : "UPDATE" ∈ rowsWords) ⟨_, rfl⟩ ?_ fun d hd =>
      read_update hd hr (by simpa using hk.1) hbare
    simp only [pieces, Statement.updatePieces, List.length_append, length_numbered,
      List.length_cons]
    omega
  | get id =>
    exact next_listing ⟨[], .leaf ⟨"id", ""⟩, [], 0⟩ hw hr (by simp)
      (by simp [Filter.leaves]; decide) (by simp)
  | delete id =>
    refine next_of_rows (by decide : "DELETE" ∈ rowsWords) ⟨_, rfl⟩ ?_ fun d hd =>
      read_deletion hd hr
    simp only [pieces, Statement.deletePieces, List.length_append, length_numbered,
      List.length_cons]
    omega
  | list request =>
    obtain ⟨hselect, hfilter, horder⟩ := hk
    refine next_listing request hw hr (fun c hc => ?_) (fun c hc => ?_) fun k hk => ?_
    · exact (hselect c hc).imp_right fun h => hnames c h ho _ (by decide)
    · exact hnames c.field (hfilter c hc) ho _ (by decide)
    · exact hnames k.column (horder k hk) ho _ (by decide)

end Request

variable {table : String}

theorem next_of_fault {t : Token} {ts : List Token} {e : Fault} (hs : t.is ";" = false)
    (hf : t.lexeme ≠ .finish)
    (h : instruction (phrases ((t :: ts).length + 1)) (t :: ts) = .error e) :
    next (t :: ts) = .error e := by
  have hd : (t :: ts).dropWhile (fun t => t.is ";") = t :: ts :=
    List.dropWhile_cons_of_neg (by simp [hs])
  have hfirst : ¬(first (t :: ts)).lexeme = .finish := hf
  simp only [next, hd, if_neg hfirst, h]

theorem next_of_rows_fault {key : String} {ts : List Token} (hk : key ∈ rowsWords)
    (h : ∀ p, ∃ e, rowsInstruction p (false, []) (.word [] key :: ts) = .error e) :
    ∃ e, next (.word [] key :: ts) = .error e := by
  obtain ⟨e, he⟩ := h (phrases ((Token.word [] key :: ts).length + 1))
  exact ⟨e, next_of_fault (rows_no_end hk) (by simp [Token.word])
    ((instruction_rows hk _ _).trans he)⟩

theorem insertion_reserved (hr : isReserved table) (p : Phrases) (ts : List Token) :
    ∃ e, rowsInstruction p (false, [])
      (.word [] "INSERT" :: .word space "INTO" :: .word space table :: ts) = .error e := by
  obtain ⟨e, he⟩ := read_reserved hr space ts
  refine ⟨e, ?_⟩
  have hstart : rowsInstruction p (false, [])
      (.word [] "INSERT" :: .word space "INTO" :: .word space table :: ts) =
        insertion p (false, []) none (.word space "INTO" :: .word space table :: ts) := rfl
  have hinto : expect "INTO" (.word space "INTO" :: .word space table :: ts) =
      .ok ((), .word space table :: ts) := rfl
  rw [hstart, insertion, bind_ok hinto]
  exact bind_error he

theorem deletion_reserved (hr : isReserved table) (p : Phrases) (ts : List Token) :
    ∃ e, rowsInstruction p (false, [])
      (.word [] "DELETE" :: .word space "FROM" :: .word space table :: ts) = .error e := by
  obtain ⟨e, he⟩ := read_reserved hr space ts
  refine ⟨e, ?_⟩
  have hstart : rowsInstruction p (false, [])
      (.word [] "DELETE" :: .word space "FROM" :: .word space table :: ts) =
        deletion p [] (.word space "FROM" :: .word space table :: ts) := rfl
  have hfrom : expect "FROM" (.word space "FROM" :: .word space table :: ts) =
      .ok ((), .word space table :: ts) := rfl
  rw [hstart, deletion, bind_ok hfrom]
  exact bind_error he

/-- A table of the name OR is not even read as one: no rule for conflicts follows. -/
theorem update_reserved (hr : isReserved table) (p : Phrases) (ts : List Token) :
    ∃ e, rowsInstruction p (false, [])
      (.word [] "UPDATE" :: .word space table :: .word space "SET" :: ts) = .error e := by
  have hstart : rowsInstruction p (false, [])
      (.word [] "UPDATE" :: .word space table :: .word space "SET" :: ts) =
        update p [] (.word space table :: .word space "SET" :: ts) := rfl
  rw [hstart, update]
  cases hor : (Token.word space table).is "OR" with
  | true =>
    have htake : take "OR" (.word space table :: .word space "SET" :: ts) =
        .ok (true, .word space "SET" :: ts) := take_hit (s := .word space table :: _) hor
    have hconflict : ∃ e, conflictAfterOr (.word space table :: .word space "SET" :: ts) =
        .error e := by
      rw [conflictAfterOr, bind_ok htake, if_pos rfl]
      exact ⟨_, rfl⟩
    obtain ⟨e, he⟩ := hconflict
    exact ⟨e, bind_error he⟩
  | false =>
    have htake : take "OR" (.word space table :: .word space "SET" :: ts) =
        .ok (false, .word space table :: .word space "SET" :: ts) :=
      take_miss (s := .word space table :: _) hor
    have hconflict : conflictAfterOr (.word space table :: .word space "SET" :: ts) =
        .ok (none, .word space table :: .word space "SET" :: ts) := by
      rw [conflictAfterOr, bind_ok htake, if_neg Bool.false_ne_true]
      rfl
    obtain ⟨e, he⟩ := read_reserved hr space (.word space "SET" :: ts)
    rw [bind_ok hconflict]
    exact ⟨e, bind_error he⟩

theorem sources_reserved (hw : Identifier.isPlain table) (hr : isReserved table) (p : Phrases)
    (ts : List Token) :
    ∃ e, after "FROM" (fun ts => sourceList p (ts.length + 1) ts)
      (.word space "FROM" :: .word space table :: ts) = .error e := by
  obtain ⟨e, he⟩ := read_reserved hr space ts
  have hopen : take "(" (.word space table :: ts) = .ok (false, .word space table :: ts) :=
    take_miss (s := .word space table :: ts)
      (word_is_not (isWord_of_plain hw) (c := '(') rfl (by decide))
  have hsource (sources : Reader (List (Source Query))) :
      sourceWith p sources .inner false (.word space table :: ts) = .error e := by
    rw [sourceWith, bind_ok hopen, if_neg Bool.false_ne_true]
    exact bind_error he
  have hlist (n : Nat) : sourceList p (n + 1) (.word space table :: ts) = .error e := by
    rw [sourceList]
    exact bind_error (hsource _)
  have hfrom : take "FROM" (.word space "FROM" :: .word space table :: ts) =
      .ok (true, .word space table :: ts) := rfl
  refine ⟨e, ?_⟩
  unfold after
  rw [bind_ok hfrom, if_pos rfl]
  exact bind_error (hlist _)

theorem listing_reserved {d : Nat} {request : ListRequest} (hw : Identifier.isPlain table)
    (hr : isReserved table) (hselect : ∀ c ∈ request.select, c = "*" ∨ isBare termWords c) :
    ∃ e, core (phrases (d + 1)) (.word [] "SELECT" :: listingTokens table request) = .error e := by
  let ts := (listingTokens table request).drop
    ((numbered 0 (Statement.selectionPieces request.select)).length + 2)
  have htokens : listingTokens table request =
      numbered 0 (Statement.selectionPieces request.select) ++ .word space "FROM" ::
        .word space table :: ts := by
    simp [ts, listingTokens]
  obtain ⟨e, he⟩ := sources_reserved hw hr (phrases (d + 1)) ts
  have hselection := read_selection (d := d) (n := 0) hselect rfl (.word space table :: ts)
  rw [htokens]
  generalize hs : numbered 0 (Statement.selectionPieces request.select) ++ .word space "FROM" ::
    .word space table :: ts = us at hselection
  have hvalues : take "VALUES" (.word [] "SELECT" :: us) =
      .ok (false, .word [] "SELECT" :: us) := rfl
  have hword : expect "SELECT" (.word [] "SELECT" :: us) = .ok ((), us) := rfl
  have hdistinct : take "DISTINCT" us = .ok (false, us) :=
    hs ▸ head_selection hselect (by decide) _
  have hall : take "ALL" us = .ok (false, us) := hs ▸ head_selection hselect (by decide) _
  rw [core, bind_ok hvalues, if_neg Bool.false_ne_true, bind_ok hword, bind_ok hdistinct,
    Bool.not_false, if_pos rfl, bind_ok hall]
  exact ⟨e, (bind_ok hselection).trans (bind_error he)⟩

theorem next_of_core_fault {d : Nat} {ts : List Token} {e : Fault}
    (h : core (phrases d) (.word [] "SELECT" :: ts) = .error e) :
    instruction (phrases (d + 1)) (.word [] "SELECT" :: ts) = .error e := by
  have hcommons : commonTables (phrases d) (.word [] "SELECT" :: ts) =
      .ok ((false, []), .word [] "SELECT" :: ts) := rfl
  have hquery : query (phrases d) (.word [] "SELECT" :: ts) = .error e := by
    rw [query, bind_ok hcommons, queryAfter]
    exact bind_error h
  exact bind_error (r := (phrases (d + 1)).query) hquery

theorem next_listing_reserved (request : ListRequest) (hw : Identifier.isPlain table)
    (hr : isReserved table) (hselect : ∀ c ∈ request.select, c = "*" ∨ isBare termWords c) :
    ∃ e, next (numbered 0 (Statement.listPieces table request) ++ [.finish]) = .error e := by
  rw [listing_tokens]
  obtain ⟨e, he⟩ := listing_reserved (d := (listingTokens table request).length) hw hr hselect
  exact ⟨e, next_of_fault rfl (by simp [Token.word]) (next_of_core_fault he)⟩

/-- The text of a request on a table with a reserved name is no statement. -/
theorem Request.read_request_reserved {types : ColumnTypes} {r : Request}
    (hw : Identifier.isPlain table) (hr : isReserved table) (hk : r.Known types)
    (ho : r.Ordinary types) : ∃ e, next (numbered 0 (r.pieces table) ++ [.finish]) = .error e := by
  cases r with
  | insert fields =>
    have hrows := fun p => insertion_reserved hr p (numbered 0
      (enclosedPieces (separated ((fields.map Prod.fst).map Statement.quotedPieces)) space ++
        .token (.word space "VALUES") ::
          enclosedPieces (separated ((fields.map Prod.fst).map Statement.valuePieces)) space) ++
            [.finish])
    exact next_of_rows_fault (by decide) hrows
  | update id fields =>
    have hrows := fun p => update_reserved hr p (numbered 0
      (separated ((fields.map Prod.fst).map Statement.assignmentPieces) space ++
        Statement.idPieces) ++ [.finish])
    exact next_of_rows_fault (by decide) hrows
  | get id =>
    exact next_listing_reserved ⟨[], .leaf ⟨"id", ""⟩, [], 0⟩ hw hr (by simp)
  | delete id =>
    have hrows := fun p => deletion_reserved hr p (numbered 0 Statement.idPieces ++ [.finish])
    exact next_of_rows_fault (by decide) hrows
  | list request =>
    refine next_listing_reserved request hw hr fun c hc => (hk.1 c hc).imp_right fun h => ?_
    exact bare_of_ordinary (by decide) (ordinary_of_known ho h)

end Tabular
