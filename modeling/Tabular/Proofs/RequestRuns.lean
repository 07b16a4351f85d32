import Tabular.Proofs.RequestReading
import Tabular.Proofs.StoreRuns

/-!
# Running requests

The text of a request is compiled into one statement that has as many parameters as the
request has bindings, or it is not compiled at all. So it stays in every store, whatever
else has run there.
-/

set_option autoImplicit false

namespace Tabular

open Sql Sql.Connection

theorem number_other {t : Token} (hp : isParameter t = false)
    (he : ¬(t.lexeme = .symbol ∧ t.raw = [';'])) (ps : Parameters) (ts : List Token) :
    ps.number (t :: ts) = (ps.number ts).map fun r => (t :: r.1, r.2) := by
  obtain ⟨lead, raw, lexeme⟩ := t
  cases lexeme
  case parameter m => cases hp
  all_goals
    rw [Parameters.number]
    refine (if_neg he).trans ?_
    cases ps.number ts <;> rfl

theorem numberFrom_other {t : Token} (hp : isParameter t = false) (k : Nat) (ts : List Token) :
    numberFrom k (t :: ts) = t :: numberFrom k ts := by
  obtain ⟨lead, raw, lexeme⟩ := t
  cases lexeme
  case parameter m => cases hp
  all_goals rfl

/-- Question marks get consecutive numbers, as long as these are not too high. -/
theorem number_clean {k : Nat} {w : List (String × Nat)} {ts : List Token}
    (hk : k ≤ Parameters.limit) (h : ∀ t ∈ ts, isStray t = false) :
    Parameters.number ⟨k, w⟩ ts =
      if k + parameterCount ts ≤ Parameters.limit then
        .ok (numberFrom k ts, ⟨k + parameterCount ts, w⟩)
      else .error .tooManyParameters := by
  induction ts generalizing k with
  | nil =>
    rw [if_pos (by simpa [parameterCount] using hk)]
    rfl
  | cons t ts ih =>
    obtain ⟨ht, hts⟩ := List.forall_mem_cons.1 h
    have hend : ¬(t.lexeme = .symbol ∧ t.raw = [';']) := fun he => by simp [isStray, he] at ht
    cases hp : isParameter t with
    | false =>
      have hcount : parameterCount (t :: ts) = parameterCount ts :=
        List.countP_cons_of_neg (by simp [hp])
      have hnumber : numberFrom k (t :: ts) = t :: numberFrom k ts := numberFrom_other hp k ts
      rw [number_other hp hend, ih hk hts, hcount, hnumber]
      split <;> rfl
    | true =>
      obtain ⟨lead, raw, lexeme⟩ := t
      cases lexeme
      case parameter m =>
        have hraw : raw = ['?'] := by simpa [isStray, isParameter] using ht
        subst hraw
        have hcount : parameterCount (⟨lead, ['?'], .parameter m⟩ :: ts) =
          parameterCount ts + 1 := List.countP_cons_of_pos rfl
        have hadd : Parameters.add ⟨k, w⟩ ['?'] =
            if Parameters.limit < k + 1 then .error .tooManyParameters
            else .ok (k + 1, ⟨k + 1, w⟩) := rfl
        rw [Parameters.number, hadd, hcount, ← Nat.add_assoc, Nat.add_right_comm]
        by_cases hl : Parameters.limit < k + 1
        · have hover : ¬k + 1 + parameterCount ts ≤ Parameters.limit := by omega
          rw [if_pos hl, if_neg hover]
          rfl
        · rw [if_neg hl]
          change (Parameters.number ⟨k + 1, w⟩ ts >>= fun r => _) = _
          rw [ih (by omega) hts]
          split <;> rfl
      all_goals cases hp

def Inked (ps : List Piece) : Prop := ∃ c ∈ (pieceText ps).getLast?, Text.isBlank c = false

namespace Inked

variable {ps qs : List Piece}

theorem append (ps : List Piece) (h : Inked qs) : Inked (ps ++ qs) := by
  obtain ⟨c, hc, hb⟩ := h
  refine ⟨c, ?_, hb⟩
  rw [pieceText_append]
  simp [Option.mem_def.1 hc]

theorem or (hp : Inked ps) (hq : qs = [] ∨ Inked qs) : Inked (ps ++ qs) := by
  rcases hq with rfl | hq
  · rwa [List.append_nil]
  · exact hq.append ps

theorem flatMap {α : Type} {as : List α} {g : α → List Piece} (hp : Inked ps)
    (h : ∀ a ∈ as, Inked (g a)) : Inked (ps ++ as.flatMap g) := by
  induction as generalizing ps with
  | nil => rwa [List.flatMap_nil, List.append_nil]
  | cons a as ih =>
    obtain ⟨ha, has⟩ := List.forall_mem_cons.1 h
    rw [List.flatMap_cons, ← List.append_assoc]
    exact ih (ha.append ps) has

theorem token {t : Token} (hn : t.raw ≠ []) (h : ∀ c ∈ t.raw, Text.isBlank c = false) :
    Inked [.token t] := by
  have hlast := List.getLast?_eq_some_getLast hn
  refine ⟨t.raw.getLast hn, ?_, h _ (List.getLast_mem hn)⟩
  simp [pieceText, Piece.text, Token.written, hlast]

end Inked

theorem blank_of_plain {c : Char} (h : Identifier.isLetter c || Identifier.isDigit c) :
    Text.isBlank c = false := by
  have hletter : 48 ≤ c.toNat ∧ c.toNat ≤ 122 := by
    simp only [Identifier.isLetter, Identifier.isDigit, Bool.or_eq_true, Bool.and_eq_true,
      decide_eq_true_eq, Char.le_def, UInt32.le_iff_toNat_le] at h
    rcases h with ((⟨h, k⟩ | ⟨h, k⟩) | rfl) | ⟨h, k⟩
    · exact ⟨Nat.le_trans (by decide) h, Nat.le_trans k (by decide)⟩
    · exact ⟨Nat.le_trans (by decide) h, Nat.le_trans k (by decide)⟩
    · decide
    · exact ⟨h, Nat.le_trans k (by decide)⟩
  simp only [Text.isBlank, Bool.or_eq_false_iff, Bool.and_eq_false_iff, decide_eq_false_iff_not,
    beq_eq_false_iff_ne]
  omega

theorem inked_plain {word : String} (hw : Identifier.isPlain word) (gap : List Char) :
    Inked [.token (.word gap word)] := by
  rw [Identifier.isPlain] at hw
  cases hs : word.toList with
  | nil => simp [hs] at hw
  | cons c cs =>
    simp only [hs, Bool.and_eq_true, List.all_eq_true] at hw
    refine .token (by simp [Token.word, hs]) fun d hd => blank_of_plain ?_
    rcases List.mem_cons.1 (hs ▸ hd : d ∈ c :: cs) with rfl | hd
    · simp [hw.1]
    · exact hw.2 d hd

theorem inked_composed : Composed (fun _ => True)
    fun _ p _ => ∀ excluded gap, Inked (p.pieces excluded gap) where
  condition _ c _ excluded gap :=
    .append [.column excluded gap c.field, .token (.symbol [] (Operator.extract c.value).1.sql)]
      ⟨'?', rfl, rfl⟩
  enclosed _ _ _ _ := .append _ ⟨')', rfl, rfl⟩

theorem inked_where (f : Filter) : Statement.wherePieces f = [] ∨
    Inked (Statement.wherePieces f) := by
  rw [Statement.wherePieces]
  cases hp : f.whole? with
  | none => exact .inl rfl
  | some p =>
    obtain ⟨first, _, rest, hf, hr, rfl⟩ :=
      Filter.whole_joined inked_composed (fun _ _ => trivial) hp
    refine .inr (.append [.token (.word space "WHERE")] ?_)
    exact (hf _ _).flatMap fun q hq => .append [.token (.word space q.1.sql)] (hr.all q hq _ _)

theorem inked_order (order : List SortKey) : Statement.orderPieces order = [] ∨
    Inked (Statement.orderPieces order) := by
  have hsort (k : SortKey) (gap : List Char) : Inked (Statement.sortPieces k gap) := by
    have hword : Identifier.isPlain k.direction.sql := by cases k.direction <;> rfl
    exact .append [.column termWords gap k.column] (inked_plain hword space)
  cases order with
  | nil => exact .inl rfl
  | cons k order =>
    refine .inr (.append _ ?_)
    rw [List.map_cons, separated]
    refine (hsort k space).flatMap fun item hi => ?_
    obtain ⟨l, _, rfl⟩ := List.mem_map.1 hi
    exact .append [.token (.symbol [] ",")] (hsort l space)

theorem inked_limit (limit : Nat) : Statement.limitPieces limit = [] ∨
    Inked (Statement.limitPieces limit) := by
  rw [Statement.limitPieces]
  split
  · exact .inl rfl
  · refine .inr (.append [.token (.word space "LIMIT")] (.token ?_ fun c hc => ?_))
    · exact Statement.showNat_ne limit
    · have hd : '0' ≤ c ∧ c ≤ '9' := by
        simpa [Decimal.isDigit, Decimal.digit?] using Statement.isDigit_showNat limit c hc
      exact blank_of_plain (by simp [Identifier.isDigit, hd])

/-- The text of a request stands in the store as it is. -/
theorem Request.trimmed_text {table : String} (ht : Identifier.isPlain table) (r : Request) :
    Text.trimmed (String.ofList (pieceText (r.pieces table))) =
      String.ofList (pieceText (r.pieces table)) := by
  have hinked : Inked (r.pieces table) := by
    cases r with
    | insert fields =>
      exact .append _ (.append [.token (.word space "VALUES")] (.append _ ⟨')', rfl, rfl⟩))
    | update id fields => exact .append _ ⟨'?', rfl, rfl⟩
    | get id => exact .append _ ⟨'?', rfl, rfl⟩
    | delete id => exact .append _ ⟨'?', rfl, rfl⟩
    | list request =>
      refine .or (.or (.or (.append _ ?_) (inked_where _)) (inked_order _)) (inked_limit _)
      exact .append [.token (.word space "FROM")] (inked_plain ht space)
  have hhead : ∃ c ∈ (pieceText (r.pieces table)).head?, Text.isBlank c = false := by
    cases r <;> exact ⟨_, rfl, rfl⟩
  obtain ⟨c, hc, hb⟩ := hhead
  obtain ⟨d, hd, he⟩ := hinked
  have hstrip := strip_append (p := Text.isBlank) (s := pieceText (r.pieces table))
    (fun hn => by simp [hn] at hc) (fun x hx => by rwa [← Option.mem_unique hc hx])
    (fun x hx => by rwa [← Option.mem_unique hd hx]) (List.forall_mem_nil _)
  rw [Text.trimmed, String.toList_ofList]
  rw [List.append_nil] at hstrip
  exact congrArg String.ofList hstrip

namespace Request

variable {table : String} {types : ColumnTypes} {r : Request}

theorem bare_of_known (hk : r.Known types) (ho : r.Ordinary types) : r.Bare := by
  have hnames : ∀ n, (types.get? n).isSome → (∀ n ∈ types.names, isOrdinary n) →
      ∀ excluded ⊆ keywords, isBare excluded n :=
    fun n hn h excluded he => bare_of_ordinary he (ordinary_of_known h hn)
  cases r with
  | insert _ | get _ | delete _ => trivial
  | update id fields => exact fun f hf => hnames f.1 (hk.2 f hf) ho _ (by decide)
  | list request =>
    obtain ⟨hselect, hfilter, horder⟩ := hk
    refine ⟨fun c hc => (hselect c hc).imp_right fun h => hnames c h ho _ (by decide), ?_,
      fun k hk => hnames k.column (horder k hk) ho _ (by decide)⟩
    rw [Statement.wherePieces]
    cases hp : request.filter.whole? with
    | none => simp
    | some p =>
      have hopen : ∀ c ∈ request.filter.leaves, isBare openWords c.field :=
        fun c hc => hnames c.field (hfilter c hc) ho _ (by decide)
      exact List.forall_mem_cons.2
        ⟨trivial, (Filter.whole_sequence hopen hp).plain termWords (.inl rfl) space⟩

theorem tokensOf_written (ht : Identifier.isPlain table) (hk : r.Known types)
    (ho : r.Ordinary types) :
    tokensOf (r.written table types).sql = (r.pieces table).map Piece.toToken ++ [.finish] :=
  tokensOf_pieces String.toList_ofList (statement_known ht hk).2
    ((plain_pieces table r).2 (bare_of_known hk ho))

theorem dropWhile_written (ht : Identifier.isPlain table) (hk : r.Known types)
    (ho : r.Ordinary types) :
    (tokensOf (r.written table types).sql).dropWhile (fun t => t.is ";") =
      tokensOf (r.written table types).sql := by
  rw [tokensOf_written ht hk ho]
  cases r <;> rfl

/-- The parameters of a request get the numbers of its bindings, unless there are too many. -/
theorem number_written (ht : Identifier.isPlain table) (hk : r.Known types)
    (ho : r.Ordinary types) :
    Parameters.empty.number (tokensOf (r.written table types).sql) =
      if (r.bindings types).length ≤ Parameters.limit then
        .ok (numbered 0 (r.pieces table) ++ [.finish], ⟨(r.bindings types).length, []⟩)
      else .error .tooManyParameters := by
  have hclean : ∀ t ∈ (r.pieces table).map Piece.toToken ++ [.finish], isStray t = false :=
    List.forall_mem_append.2 ⟨clean_pieces table r, by simp; rfl⟩
  have hcount : parameterCount ((r.pieces table).map Piece.toToken ++ [.finish]) =
      (r.bindings types).length := by
    rw [parameterCount, List.countP_append]
    exact parameterCount_pieces table types r
  have hnumber := number_clean (w := []) (Nat.zero_le Parameters.limit) hclean
  rw [hcount, Nat.zero_add, numberFrom_append] at hnumber
  rw [tokensOf_written ht hk ho]
  exact hnumber

structure Compiled (table : String) (types : ColumnTypes) (r : Request) (p : Prepared) : Prop where
  instruction : p.instruction = r.instruction table
  parameters : p.parameters = ⟨(r.bindings types).length, []⟩
  columns : ∃ c : Connection, c.columnsHere p.instruction = .ok p.columns

theorem prepare_written (ht : Identifier.isPlain table) (hr : isReserved table = false)
    (hk : r.Known types) (ho : r.Ordinary types) (hl : (r.bindings types).length ≤ Parameters.limit)
    (c : Connection) :
    c.prepare (.ofText (r.written table types).sql) =
      match c.columnsHere (r.instruction table) with
      | .ok columns =>
        (⟨[⟨r.instruction table, ⟨(r.bindings types).length, []⟩, columns⟩], ended⟩, none)
      | .error e => (.ofText (r.written table types).sql, some e) := by
  have hn := number_written ht hk ho
  rw [if_pos hl] at hn
  exact prepare_statement c (dropWhile_written ht hk ho) hn (read_request ht hr hk ho)

/-- The text of a request is compiled into its statement, if it is compiled at all. -/
theorem compiles_written (ht : Identifier.isPlain table) (hk : r.Known types)
    (ho : r.Ordinary types) :
    Store.Compiles (r.written table types).sql (r.Compiled table types) where
  trimmed := trimmed_text ht r
  prepares c := by
    by_cases hl : (r.bindings types).length ≤ Parameters.limit
    · cases hr : isReserved table with
      | true =>
        have hn := number_written ht hk ho
        rw [if_pos hl] at hn
        obtain ⟨e, he⟩ := read_request_reserved ht hr hk ho
        exact .inr
          ⟨e, prepare_of_fault (prepareNext_of_unread c (dropWhile_written ht hk ho) hn he)⟩
      | false =>
        rw [prepare_written ht hr hk ho hl]
        cases hc : c.columnsHere (r.instruction table) with
        | error e => exact .inr ⟨e, rfl⟩
        | ok columns => exact .inl ⟨_, ⟨rfl, rfl, c, hc⟩, rfl⟩
    · have hn := number_written ht hk ho
      rw [if_neg hl] at hn
      exact .inr ⟨_, prepare_of_fault (prepareNext_of_uncounted c (dropWhile_written ht hk ho) hn)⟩

/-- The text of a request is compiled into one statement with a parameter for each binding,
if it is compiled at all. -/
theorem single_written (ht : Identifier.isPlain table) (hk : r.Known types)
    (ho : r.Ordinary types) :
    Store.Single (r.written table types).sql (r.bindings types).length :=
  (compiles_written ht hk ho).single fun _ hp => congrArg Parameters.count hp.parameters

end Request

end Tabular
