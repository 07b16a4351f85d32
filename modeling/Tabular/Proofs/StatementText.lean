import Tabular.Proofs.FilterText
import Tabular.Proofs.Reading
import Tabular.Statement.Builder

/-!
# The texts of statements in pieces

The text of each statement for a single table is laid out with its columns in their
places. An insertion quotes them; an update and a listing write them as they are, so
that their texts are cut as they are meant to be exactly if all columns there are bare.
-/

set_option autoImplicit false

namespace Tabular

open Sql Lexer

namespace Statement

def idPieces : List Piece :=
  [.token (.word space "WHERE"), .column termWords space "id", .token (.symbol [] "="),
    .token (.placeholder [])]

def quotedPieces (column : String) (gap : List Char) : List Piece := [.token (.quoted gap column)]

def valuePieces (_ : String) (gap : List Char) : List Piece := [.token (.placeholder gap)]

def insertPieces (table : String) (columns : List String) : List Piece :=
  [.token (.word [] "INSERT"), .token (.word space "INTO"), .token (.word space table)] ++
    enclosedPieces (separated (columns.map quotedPieces)) space ++
    .token (.word space "VALUES") :: enclosedPieces (separated (columns.map valuePieces)) space

def assignmentPieces (column : String) (gap : List Char) : List Piece :=
  [.column reservedWords gap column, .token (.symbol [] "="), .token (.placeholder [])]

def updatePieces (table : String) (columns : List String) : List Piece :=
  [.token (.word [] "UPDATE"), .token (.word space table), .token (.word space "SET")] ++
    separated (columns.map assignmentPieces) space ++ idPieces

def selectByIdPieces (table : String) : List Piece :=
  [.token (.word [] "SELECT"), .token (.symbol space "*"), .token (.word space "FROM"),
    .token (.word space table)] ++ idPieces

def deletePieces (table : String) : List Piece :=
  [.token (.word [] "DELETE"), .token (.word space "FROM"), .token (.word space table)] ++ idPieces

def selectedPieces (column : String) (gap : List Char) : List Piece :=
  if column = "*" then [.token (.symbol gap "*")] else [.column termWords gap column]

def selectionPieces (select : List String) : List Piece :=
  if select.isEmpty then [.token (.symbol space "*")]
  else separated (select.map selectedPieces) space

def wherePieces (filter : Filter) : List Piece :=
  match filter.whole? with
  | none => []
  | some p => .token (.word space "WHERE") :: p.pieces termWords space

def sortPieces (key : SortKey) (gap : List Char) : List Piece :=
  [.column termWords gap key.column, .token (.word space key.direction.sql)]

def orderPieces (order : List SortKey) : List Piece :=
  if order.isEmpty then []
  else [.token (.word space "ORDER"), .token (.word space "BY")] ++
    separated (order.map sortPieces) space

def limitPieces (limit : Nat) : List Piece :=
  if limit = 0 then []
  else [.token (.word space "LIMIT"), .token ⟨space, (Decimal.showNat limit).toList, .integer⟩]

def listPieces (table : String) (request : ListRequest) : List Piece :=
  .token (.word [] "SELECT") :: selectionPieces request.select ++
    [.token (.word space "FROM"), .token (.word space table)] ++ wherePieces request.filter ++
    orderPieces request.order ++ limitPieces request.limit

theorem follows_word {w : String} (h : isWord w.toList) : Follows [.token (.word space w)] :=
  (laid_word h).follows

theorem follows_id : Follows idPieces :=
  (follows_word (w := "WHERE") (by decide)).append
    ((laid_column termWords "id").follows.append (follows_comparison .eq))

theorem laid_assignment (column : String) :
    Laid (assignmentPieces column) (column ++ "=?").toList := by
  have h := (laid_column reservedWords column).append (follows_comparison .eq)
  rw [String.toList_append]
  exact h

theorem laid_selected (column : String) : Laid (selectedPieces column) column.toList := by
  by_cases hc : column = "*"
  · subst hc
    exact laid_star
  · have hp : selectedPieces column = fun gap => [.column termWords gap column] := by
      funext gap
      exact if_neg hc
    rw [hp]
    exact laid_column termWords column

theorem laid_sort (key : SortKey) : Laid (sortPieces key) key.sql.toList := by
  have hd := follows_word (w := key.direction.sql) (by cases key.direction <;> decide)
  have h := (laid_column termWords key.column).append hd
  have ht : key.column.toList ++ pieceText [.token (.word space key.direction.sql)] =
      key.sql.toList := by
    simp [SortKey.sql, pieceText, Piece.text, Token.written, Token.word, space]
  rw [ht] at h
  exact h

/-- Items are laid out as the text of a list with commas. -/
theorem laid_list {α : Type} (items : α → List Char → List Piece) (texts : α → String)
    (as : List α) (hn : as ≠ []) (h : ∀ x ∈ as, Laid (items x) (texts x).toList) :
    Laid (separated (as.map items)) (commaSeparated (as.map texts)).toList := by
  cases as with
  | nil => exact absurd rfl hn
  | cons a as => exact laid_separated h

theorem id_text : pieceText idPieces = " WHERE id=?".toList := by rfl

structure MakesUp (s : String) (ps : List Piece) : Prop where
  text : s.toList = pieceText ps
  sturdy : Sturdy [] ps

theorem update_text {table : String} (columns : List String) (ht : Identifier.isPlain table)
    (hn : columns ≠ []) :
    MakesUp ("UPDATE " ++ table ++ " SET " ++ commaSeparated (columns.map fun c => c ++ "=?") ++
      " WHERE id=?") (updatePieces table columns) := by
  have hlist := laid_list assignmentPieces (fun c => c ++ "=?") columns hn fun c _ =>
    laid_assignment c
  have hlaid := (laid_word (w := "UPDATE") (by decide)).append
    ((follows_word (isWord_of_plain ht)).append ((follows_word (w := "SET") (by decide)).append
      (hlist.follows.append follows_id)))
  have hs := hlaid.sturdy [] (.inl rfl) [] ends_nil
  refine ⟨?_, by simpa [updatePieces] using hs⟩
  rw [updatePieces, pieceText_append, pieceText_append, hlist.text, id_text]
  simp [pieceText, Piece.text, Token.written, Token.word, space]

theorem insert_text {table : String} (columns : List String) (ht : Identifier.isPlain table)
    (hn : columns ≠ []) :
    MakesUp ("INSERT INTO " ++ table ++ " (" ++ commaSeparated (columns.map Identifier.quote) ++
      ") VALUES (" ++ commaSeparated (columns.map fun _ => "?") ++ ")")
      (insertPieces table columns) := by
  have hnames := laid_enclosed (laid_list quotedPieces Identifier.quote columns
    hn fun c _ => by
      rw [Identifier.quote, String.toList_ofList]
      exact laid_quoted c)
  have hvalues := laid_enclosed (laid_list valuePieces (fun _ => "?") columns
    hn fun c _ => laid_placeholder)
  have hlaid := (laid_word (w := "INSERT") (by decide)).append
    ((follows_word (w := "INTO") (by decide)).append ((follows_word (isWord_of_plain ht)).append
      (hnames.follows.append ((follows_word (w := "VALUES") (by decide)).append hvalues.follows))))
  have hs := hlaid.sturdy [] (.inl rfl) [] ends_nil
  refine ⟨?_, by simpa [insertPieces] using hs⟩
  rw [insertPieces, pieceText_append, pieceText_append, hnames.text,
    pieceText_cons (.token (.word space "VALUES")), hvalues.text]
  simp [pieceText, Piece.text, Token.written, Token.word, space]

theorem selectById_text {table : String} (ht : Identifier.isPlain table) :
    MakesUp ("SELECT * FROM " ++ table ++ " WHERE id=?") (selectByIdPieces table) := by
  have hlaid := (laid_word (w := "SELECT") (by decide)).append (laid_star.follows.append
    ((follows_word (w := "FROM") (by decide)).append
      ((follows_word (isWord_of_plain ht)).append follows_id)))
  refine ⟨?_, hlaid.sturdy [] (.inl rfl) [] ends_nil⟩
  rw [selectByIdPieces, pieceText_append, id_text]
  simp [pieceText, Piece.text, Token.written, Token.word, Token.symbol, space]

theorem delete_text {table : String} (ht : Identifier.isPlain table) :
    MakesUp ("DELETE FROM " ++ table ++ " WHERE id=?") (deletePieces table) := by
  have hlaid := (laid_word (w := "DELETE") (by decide)).append
    ((follows_word (w := "FROM") (by decide)).append
      ((follows_word (isWord_of_plain ht)).append follows_id))
  refine ⟨?_, hlaid.sturdy [] (.inl rfl) [] ends_nil⟩
  rw [deletePieces, pieceText_append, id_text]
  simp [pieceText, Piece.text, Token.written, Token.word, space]

theorem selection_text (select : List String) :
    Follows (selectionPieces select) ∧
      pieceText (selectionPieces select) = ' ' :: (selection select).toList := by
  rw [selectionPieces, selection]
  cases hs : select.isEmpty with
  | true =>
    simp only [if_true]
    exact ⟨laid_star.follows, laid_star.text space⟩
  | false =>
    have hn : select ≠ [] := by
      rintro rfl
      cases hs
    have hlaid := laid_list selectedPieces (fun c => c) select hn fun c _ => laid_selected c
    rw [List.map_id'] at hlaid
    exact ⟨hlaid.follows, hlaid.text space⟩

theorem order_text (order : List SortKey) :
    Follows (orderPieces order) ∧ pieceText (orderPieces order) = (orderText order).toList := by
  rw [orderPieces, orderText]
  cases ho : order.isEmpty with
  | true => exact ⟨follows_nil, rfl⟩
  | false =>
    have hn : order ≠ [] := by
      rintro rfl
      cases ho
    have hlaid := laid_list sortPieces SortKey.sql order hn fun k _ => laid_sort k
    refine ⟨(follows_word (w := "ORDER") (by decide)).append
      ((follows_word (w := "BY") (by decide)).append hlaid.follows), ?_⟩
    simp only [Bool.false_eq_true, if_false]
    rw [pieceText_append, hlaid.text]
    simp [pieceText, Piece.text, Token.written, Token.word, space]

theorem where_text (types : ColumnTypes) (f : Filter) (terms : Nat) :
    Follows (wherePieces f) ∧ pieceText (wherePieces f) =
      (whereText (Filter.Fragment.ofText types (f.whole?.elim [] Part.text) f.leaves
        terms).clause).toList := by
  rw [wherePieces]
  cases hp : f.whole? with
  | none => exact ⟨follows_nil, rfl⟩
  | some p =>
    have hlaid := Filter.whole_regular hp termWords
    refine ⟨(follows_word (w := "WHERE") (by decide)).append hlaid.follows, ?_⟩
    have hne := Filter.whole_text_ne hp
    have hsql : (String.ofList p.text).isEmpty = false := by
      refine Bool.eq_false_iff.2 fun he => hne ?_
      rw [← String.toList_ofList (l := p.text), String.isEmpty_iff.1 he]
      rfl
    rw [pieceText_cons, hlaid.text]
    simp only [whereText, Clause.isEmpty, Filter.Fragment.ofText, Option.elim, hsql]
    simp [Piece.text, Token.written, Token.word, space]

theorem isDigit_showNat (n : Nat) : ∀ c ∈ (Decimal.showNat n).toList, Decimal.isDigit c := by
  intro c hc
  rw [Decimal.showNat, String.toList_ofList, Decimal.natText] at hc
  have hd : c.isDigit := Nat.isDigit_of_mem_toDigits (by decide) (by decide) hc
  simp only [Char.isDigit, Bool.and_eq_true, decide_eq_true_eq] at hd
  have hle : '0' ≤ c ∧ c ≤ '9' := hd
  simp [Decimal.isDigit, Decimal.digit?, hle]

theorem showNat_ne (n : Nat) : (Decimal.showNat n).toList ≠ [] := by
  rw [Decimal.showNat, String.toList_ofList]
  exact Nat.toDigits_ne_nil

theorem limit_text (limit : Nat) :
    Sturdy [] (limitPieces limit) ∧ Ends (pieceText (limitPieces limit)) ∧
      pieceText (limitPieces limit) = (limitText limit).toList := by
  rw [limitPieces, limitText]
  by_cases hl : limit = 0
  · rw [if_pos hl, if_pos hl]
    exact ⟨trivial, ends_nil, rfl⟩
  · rw [if_neg hl, if_neg hl]
    have hdigits := isDigit_showNat limit
    have hn := showNat_ne limit
    have htext : pieceText [.token (.word space "LIMIT"),
        .token ⟨space, (Decimal.showNat limit).toList, .integer⟩] =
          (" LIMIT " ++ Decimal.showNat limit).toList := by
      simp [pieceText, Piece.text, Token.written, Token.word, space]
    have htoken := token_integer hn hdigits
    refine ⟨?_, ?_, htext⟩
    · generalize (Decimal.showNat limit).toList = ds at hdigits hn htoken
      cases ds with
      | nil => exact absurd rfl hn
      | cons c cs =>
        have hd := hdigits c (by simp)
        have hf : c ≠ '\ufeff' := by
          rintro rfl
          exact absurd hd (by decide)
        have hlast : Sturdy [] [.token ⟨space, c :: cs, .integer⟩] :=
          ⟨before_of_opens (opens_of_nameChar (nameChar_of_digit hd) hf) (by decide) (.inr rfl)
            (by simpa [pieceText] using htoken), trivial⟩
        refine ⟨word_before (by decide) (.inr rfl) ?_, hlast⟩
        simp only [pieceText, List.flatMap_cons, Piece.text, Token.written, List.append_assoc]
        exact ends_space _
    · rw [htext, String.toList_append]
      exact ends_space _

theorem list_text {table : String} (request : ListRequest) {types : ColumnTypes} {c : Clause}
    (ht : Identifier.isPlain table) (hc : request.filter.clause types = .ok c) :
    MakesUp ("SELECT " ++ selection request.select ++ " FROM " ++ table ++ whereText c ++
      orderText request.order ++ limitText request.limit) (listPieces table request) := by
  have hclause := Filter.clause_whole types request.filter (Filter.known_of_clause hc)
  rw [hc] at hclause
  obtain rfl := Except.ok.inj hclause
  obtain ⟨hselected, selected⟩ := selection_text request.select
  obtain ⟨hwhere, whereSql⟩ := where_text types request.filter 0
  obtain ⟨horder, orderSql⟩ := order_text request.order
  obtain ⟨hlimit, hends, limitSql⟩ := limit_text request.limit
  have hlaid := (laid_word (w := "SELECT") (by decide)).append (hselected.append
    ((follows_word (w := "FROM") (by decide)).append
      ((follows_word (isWord_of_plain ht)).append (hwhere.append horder))))
  have hs := hlaid.sturdy [] (.inl rfl) _ hends
  have hlist := (sturdy_append [] _ (limitPieces request.limit)).2 ⟨by simpa using hs, hlimit⟩
  refine ⟨?_, by simpa [listPieces] using hlist⟩
  simp only [listPieces, pieceText_append, pieceText_cons, selected, whereSql, orderSql, limitSql]
  simp [pieceText, Piece.text, Token.written, Token.word, space]

end Statement
end Tabular
